import Mathlib.Data.List.Nodup
import Mathlib.Data.List.Pairwise
import StackBroker.Broker.Interleaving
import StackBroker.Proofs.Effects

/-!
Requests that are under way at the same time. What is left of a request is a step, and
of all its moves only its call changes that step or the state (`move_silent`,
`move_call`). No request makes more than one call (`nodup_callOrder`). The calls alone
come to what the steps of these requests come to in turn (`stepsInTurn_calls`), and a
request without a call may stand anywhere between them (`stepsInTurn_of_sublist`). Every
interleaving is thus a run in the order of its calls (`runInTurn_of_callOrder`). Over
stacks in memory at most one of several provisions of an instance succeeds
(`wins_apart`), and another that reaches the memory leaves it as it was
(`refused_of_called`).
-/
namespace StackBroker.Broker
open StackBroker.Stack (Backend Memory)

/-! ### Items at positions -/

section Items
variable {α β : Type}

/-- The items at some positions, in the order of the positions. -/
def itemsAt (items : List α) (positions : List Nat) : List α := positions.filterMap (items[·]?)

theorem itemsAt_cons {items : List α} {position : Nat} {item : α} (found : items[position]? = some item)
    (rest : List Nat) : itemsAt items (position :: rest) = item :: itemsAt items rest :=
  List.filterMap_cons_some found

theorem itemsAt_map (change : α → β) (items : List α) (positions : List Nat) :
    itemsAt (items.map change) positions = (itemsAt items positions).map change := by
  simp [itemsAt,List.map_filterMap]

theorem itemsAt_congr {first second : List α} {positions : List Nat}
    (same : ∀ position ∈ positions, first[position]? = second[position]?) :
    itemsAt first positions = itemsAt second positions :=
  List.filterMap_congr same

end Items

/-! ### Steps in turn -/

section Turns
variable {α σ : Type} {backend : Backend σ}

/-- Steps one after the other, each from the state that the one before leaves. -/
def stepsInTurn (backend : Backend σ) (state : σ) : List (Step α) → List α × σ
  | [] => ([],state)
  | step :: rest =>
    let (reply,next) := step.run backend state
    let (later,last) := stepsInTurn backend next rest
    (reply :: later,last)

theorem stepsInTurn_cons_eq {state last : σ} {step : Step α} {rest : List (Step α)} {reply : α} {later : List α} :
    stepsInTurn backend state (step :: rest) = (reply :: later,last) ↔
      (step.run backend state).1 = reply ∧ stepsInTurn backend (step.run backend state).2 rest = (later,last) := by
  simp only [stepsInTurn,List.cons.injEq,Prod.ext_iff,and_assoc]

theorem runInTurn_eq (settings : BrokerSettings) (state : σ) (requests : List (Instant × Request)) :
    runInTurn settings backend state requests =
      stepsInTurn backend state (requests.map fun asked => handle settings asked.1 asked.2) := by
  induction requests generalizing state with
  | nil => rfl
  | cons asked rest ih => simp only [runInTurn,List.map_cons,stepsInTurn,ih]

/-- Steps that answer at once may be put anywhere among others. -/
theorem stepsInTurn_of_sublist {steps : List (Step α)} {replies : List α} {calls order : List Nat}
    (within : calls.Sublist order) (distinct : order.Nodup)
    (found : ∀ position ∈ order, ∃ step reply, steps[position]? = some step ∧ replies[position]? = some reply ∧
      (position ∉ calls → step = .answer reply))
    {state last : σ} (inTurn : stepsInTurn backend state (itemsAt steps calls) = (itemsAt replies calls,last)) :
    stepsInTurn backend state (itemsAt steps order) = (itemsAt replies order,last) := by
  induction within generalizing state with
  | slnil => exact inTurn
  | @cons calls order position within ih =>
    obtain ⟨apart,others⟩ := List.nodup_cons.mp distinct
    obtain ⟨step,reply,stepFound,replyFound,silent⟩ := found position List.mem_cons_self
    obtain rfl := silent fun member => apart (within.subset member)
    rw [itemsAt_cons stepFound,itemsAt_cons replyFound,stepsInTurn_cons_eq]
    exact ⟨rfl,ih others (fun other member => found other (List.mem_cons_of_mem _ member)) inTurn⟩
  | @cons_cons calls order position within ih =>
    obtain ⟨apart,others⟩ := List.nodup_cons.mp distinct
    obtain ⟨step,reply,stepFound,replyFound,-⟩ := found position List.mem_cons_self
    rw [itemsAt_cons stepFound,itemsAt_cons replyFound,stepsInTurn_cons_eq] at inTurn ⊢
    refine ⟨inTurn.1,ih others (fun other member => ?_) inTurn.2⟩
    obtain ⟨step,reply,stepFound,replyFound,silent⟩ := found other (List.mem_cons_of_mem _ member)
    have differ : other ≠ position := fun same => apart (same ▸ member)
    exact ⟨step,reply,stepFound,replyFound,fun silence => silent (by simpa [differ] using silence)⟩

end Turns

/-! ### Moves -/

section Moves
variable {σ : Type} {settings : BrokerSettings} {backend : Backend σ}

namespace Progress

/-- What is left of a request up to its answer. -/
def left (settings : BrokerSettings) : Progress → Step (Except Refusal Response)
  | .arrived now request => handle settings now request
  | .checked step => step
  | .called reply | .answered reply => .answer reply

variable (settings backend) in
theorem left_move_silent {progress : Progress} (silent : progress.calls = false) (state : σ) :
    (progress.move settings backend state).1.left settings = progress.left settings ∧
      (progress.move settings backend state).2 = state := by
  cases progress with
  | arrived now request => exact ⟨rfl,rfl⟩
  | checked step =>
    cases step with
    | answer reply => exact ⟨rfl,rfl⟩
    | call request resume => cases silent
  | called reply => exact ⟨rfl,rfl⟩
  | answered reply => exact ⟨rfl,rfl⟩

variable (settings backend) in
theorem left_move_call {progress : Progress} (calls : progress.calls = true) (state : σ) :
    (progress.left settings).request?.isSome = true ∧
      (progress.move settings backend state).1.left settings =
        .answer ((progress.left settings).run backend state).1 ∧
      (progress.move settings backend state).2 = ((progress.left settings).run backend state).2 := by
  cases progress with
  | checked step =>
    cases step with
    | answer reply => cases calls
    | call request resume => exact ⟨rfl,rfl,rfl⟩
  | arrived | called | answered => cases calls

end Progress

namespace Interleaving

/-- What is left of every request. -/
def steps (settings : BrokerSettings) (now : Interleaving σ) : List (Step (Except Refusal Response)) :=
  now.requests.map (Progress.left settings)

/-- The next move of the request at a position is its call. -/
def calls (now : Interleaving σ) (position : Nat) : Bool :=
  ((now.requests[position]?).map Progress.calls).getD false

theorem callOrder_cons (now : Interleaving σ) (position : Nat) (rest : List Nat) :
    callOrder settings backend now (position :: rest) =
      if now.calls position then position :: callOrder settings backend (now.move settings backend position) rest
      else callOrder settings backend (now.move settings backend position) rest := rfl

variable (settings) in
theorem steps_start (requests : List (Instant × Request)) (state : σ) :
    (start requests state).steps settings = requests.map fun asked => handle settings asked.1 asked.2 := by
  simp only [steps,start,List.map_map]
  rfl

theorem move_found {now : Interleaving σ} {position : Nat} {progress : Progress}
    (found : now.requests[position]? = some progress) :
    now.move settings backend position =
      ⟨now.requests.set position (progress.move settings backend now.state).1,
        (progress.move settings backend now.state).2⟩ := by
  rw [move,found]

variable (settings backend) in
/-- A move that is no call changes neither what is left nor the state. -/
theorem move_silent {now : Interleaving σ} {position : Nat} (silent : now.calls position = false) :
    (now.move settings backend position).steps settings = now.steps settings ∧
      (now.move settings backend position).state = now.state := by
  cases found : now.requests[position]? with
  | none => exact ⟨by rw [move,found],by rw [move,found]⟩
  | some progress =>
    have idle : progress.calls = false := by simpa [calls,found] using silent
    obtain ⟨same,still⟩ := Progress.left_move_silent settings backend idle now.state
    rw [move_found found,steps,steps,List.map_set,same]
    refine ⟨List.ext_getElem? fun index => ?_,still⟩
    by_cases here : index = position
    · subst here
      have inside := (List.getElem?_eq_some_iff.mp found).1
      rw [List.getElem?_set_self (by simpa using inside),List.getElem?_map,found,Option.map_some]
    · rw [List.getElem?_set_ne (Ne.symm here)]

variable (settings backend) in
/-- A call answers what is left of its request, and changes the state as that does. -/
theorem move_call {now : Interleaving σ} {position : Nat} (called : now.calls position = true) :
    ∃ step, (now.steps settings)[position]? = some step ∧ step.request?.isSome = true ∧
      (now.move settings backend position).steps settings =
        (now.steps settings).set position (.answer (step.run backend now.state).1) ∧
      (now.move settings backend position).state = (step.run backend now.state).2 := by
  cases found : now.requests[position]? with
  | none => simp [calls,found] at called
  | some progress =>
    have busy : progress.calls = true := by simpa [calls,found] using called
    obtain ⟨asks,answered,next⟩ := Progress.left_move_call settings backend busy now.state
    refine ⟨progress.left settings,by simp [steps,found],asks,?_,?_⟩
    · rw [move_found found,steps,List.map_set,answered]
      rfl
    · rw [move_found found]
      exact next

/-- A move leaves what is left of the other requests. -/
theorem steps_move_of_ne {now : Interleaving σ} {position other : Nat} (differ : other ≠ position) :
    ((now.move settings backend position).steps settings)[other]? = (now.steps settings)[other]? := by
  cases called : now.calls position with
  | false => rw [(move_silent settings backend called).1]
  | true =>
    obtain ⟨step,-,-,same,-⟩ := move_call settings backend called
    rw [same,List.getElem?_set_ne (Ne.symm differ)]

/-! ### Schedules -/

theorem run_cons (now : Interleaving σ) (position : Nat) (rest : List Nat) :
    run settings backend now (position :: rest) = run settings backend (now.move settings backend position) rest :=
  rfl

/-- What is left of a request stays until its call. -/
theorem steps_run_of_not_mem {now : Interleaving σ} {schedule : List Nat} {position : Nat}
    (silent : position ∉ callOrder settings backend now schedule) :
    ((run settings backend now schedule).steps settings)[position]? = (now.steps settings)[position]? := by
  induction schedule generalizing now with
  | nil => rfl
  | cons first rest ih =>
    rw [callOrder_cons] at silent
    rw [run_cons]
    cases called : now.calls first with
    | false =>
      rw [called,if_neg Bool.false_ne_true] at silent
      rw [ih silent,(move_silent settings backend called).1]
    | true =>
      rw [called,if_pos rfl,List.mem_cons,not_or] at silent
      rw [ih silent.2,steps_move_of_ne silent.1]

/-- A request without a call never calls. -/
theorem not_mem_callOrder_of_answer {now : Interleaving σ} {schedule : List Nat} {position : Nat}
    {reply : Except Refusal Response} (answered : (now.steps settings)[position]? = some (.answer reply)) :
    position ∉ callOrder settings backend now schedule := by
  induction schedule generalizing now with
  | nil => exact List.not_mem_nil
  | cons first rest ih =>
    rw [callOrder_cons]
    cases called : now.calls first with
    | false =>
      rw [if_neg Bool.false_ne_true]
      exact ih (by rw [(move_silent settings backend called).1,answered])
    | true =>
      obtain ⟨step,found,asks,-,-⟩ := move_call settings backend called
      have differ : position ≠ first := by
        rintro rfl
        rw [answered,Option.some.injEq] at found
        simp [← found,Step.request?] at asks
      rw [if_pos rfl,List.mem_cons,not_or]
      exact ⟨differ,ih (by rw [steps_move_of_ne differ,answered])⟩

variable (settings backend) in
/-- After its call a request has an answer. -/
theorem steps_move_of_calls {now : Interleaving σ} {position : Nat} (called : now.calls position = true) :
    ∃ step, (now.steps settings)[position]? = some step ∧ step.request?.isSome = true ∧
      ((now.move settings backend position).steps settings)[position]? =
        some (.answer (step.run backend now.state).1) ∧
      (now.move settings backend position).state = (step.run backend now.state).2 := by
  obtain ⟨step,found,asks,same,next⟩ := move_call settings backend called
  refine ⟨step,found,asks,?_,next⟩
  rw [same,List.getElem?_set_self (List.getElem?_eq_some_iff.mp found).1]

/-- No request makes more than one call. -/
theorem nodup_callOrder (now : Interleaving σ) (schedule : List Nat) :
    (callOrder settings backend now schedule).Nodup := by
  induction schedule generalizing now with
  | nil => exact List.nodup_nil
  | cons first rest ih =>
    rw [callOrder_cons]
    cases called : now.calls first with
    | false => exact ih _
    | true =>
      obtain ⟨step,-,-,answered,-⟩ := steps_move_of_calls settings backend called
      exact List.nodup_cons.mpr ⟨not_mem_callOrder_of_answer answered,ih _⟩

theorem length_requests_move (now : Interleaving σ) (position : Nat) :
    (now.move settings backend position).requests.length = now.requests.length := by
  rw [move]
  split
  · rfl
  · exact List.length_set

theorem lt_of_mem_callOrder {now : Interleaving σ} {schedule : List Nat} {position : Nat}
    (member : position ∈ callOrder settings backend now schedule) : position < now.requests.length := by
  induction schedule generalizing now with
  | nil => cases member
  | cons first rest ih =>
    have later : position ∈ callOrder settings backend (now.move settings backend first) rest →
        position < now.requests.length := fun member => by
      simpa [length_requests_move] using ih member
    rw [callOrder_cons] at member
    split at member
    · rename_i called
      rcases List.mem_cons.mp member with rfl | member
      · refine Decidable.byContradiction fun beyond => ?_
        simp [calls,List.getElem?_eq_none (Nat.le_of_not_lt beyond)] at called
      · exact later member
    · exact later member

variable (settings) in
/-- Requests that all have answers have nothing left but these. -/
theorem steps_of_replies? {now : Interleaving σ} {replies : List (Except Refusal Response)}
    (finished : now.replies? = some replies) : now.steps settings = replies.map .answer := by
  obtain ⟨requests,state⟩ := now
  simp only [replies?,steps] at finished ⊢
  clear state
  induction requests generalizing replies with
  | nil =>
    cases finished
    rfl
  | cons progress rest ih =>
    simp only [List.mapM_cons,Option.bind_eq_bind,Option.bind_eq_some_iff,Option.pure_def,Option.some.injEq] at finished
    obtain ⟨reply,here,later,there,rfl⟩ := finished
    cases progress with
    | answered given =>
      obtain rfl := Option.some.inj here
      rw [List.map_cons,List.map_cons,ih there]
      rfl
    | arrived | checked | called => cases here

/-- A request of which only an answer is left is given this answer at the end. -/
theorem getElem?_replies_of_answer {now : Interleaving σ} {schedule : List Nat} {position : Nat}
    {replies : List (Except Refusal Response)} {reply : Except Refusal Response}
    (finished : (run settings backend now schedule).steps settings = replies.map .answer)
    (answered : (now.steps settings)[position]? = some (.answer reply)) : replies[position]? = some reply := by
  have silent : position ∉ callOrder settings backend now schedule := not_mem_callOrder_of_answer answered
  have kept := steps_run_of_not_mem silent
  rw [finished,answered,List.getElem?_map,Option.map_eq_some_iff] at kept
  obtain ⟨found,given,same⟩ := kept
  rw [given,Step.answer.inj same]

/-- The calls of a schedule come to what their requests come to in turn. -/
theorem stepsInTurn_calls {now : Interleaving σ} {schedule : List Nat} {replies : List (Except Refusal Response)}
    (finished : (run settings backend now schedule).steps settings = replies.map .answer) :
    stepsInTurn backend now.state (itemsAt (now.steps settings) (callOrder settings backend now schedule)) =
      (itemsAt replies (callOrder settings backend now schedule),(run settings backend now schedule).state) := by
  -- A move that is no call changes neither side; a call is the first of the steps, and its
  -- answer cannot change any more.
  induction schedule generalizing now with
  | nil => rfl
  | cons first rest ih =>
    rw [run_cons] at finished ⊢
    have continued := ih finished
    rw [callOrder_cons]
    cases called : now.calls first with
    | false =>
      obtain ⟨same,still⟩ := move_silent settings backend called
      rw [if_neg Bool.false_ne_true]
      rwa [same,still] at continued
    | true =>
      obtain ⟨step,found,-,answered,next⟩ := steps_move_of_calls settings backend called
      have once : first ∉ callOrder settings backend (now.move settings backend first) rest :=
        not_mem_callOrder_of_answer answered
      have given := getElem?_replies_of_answer finished answered
      have others : itemsAt (now.steps settings)
            (callOrder settings backend (now.move settings backend first) rest) =
          itemsAt ((now.move settings backend first).steps settings)
            (callOrder settings backend (now.move settings backend first) rest) :=
        itemsAt_congr fun position member => by
          have differ : position ≠ first := fun same => once (same ▸ member)
          exact (steps_move_of_ne differ).symm
      rw [if_pos rfl,itemsAt_cons found,itemsAt_cons given,stepsInTurn_cons_eq,others]
      exact ⟨rfl,by rw [← next]; exact continued⟩

/-! ### Orders of the calls -/

theorem length_requests_run (now : Interleaving σ) (schedule : List Nat) :
    (run settings backend now schedule).requests.length = now.requests.length := by
  induction schedule generalizing now with
  | nil => rfl
  | cons first rest ih => rw [run_cons,ih,length_requests_move]

/-- An order of all requests in which those that call come as their calls do. -/
def InCallOrder (settings : BrokerSettings) (backend : Backend σ) (now : Interleaving σ) (schedule order : List Nat) :
    Prop :=
  order.Perm (List.range now.requests.length) ∧ (callOrder settings backend now schedule).Sublist order

/-- Requests that do not call may come after all those that do. -/
theorem exists_inCallOrder (settings : BrokerSettings) (backend : Backend σ) (now : Interleaving σ)
    (schedule : List Nat) : ∃ order, InCallOrder settings backend now schedule order := by
  let calling := callOrder settings backend now schedule
  refine ⟨calling ++ (List.range now.requests.length).filter (· ∉ calling),?_,List.sublist_append_left _ _⟩
  refine (List.perm_ext_iff_of_nodup ?_ List.nodup_range).mpr fun position => ?_
  · refine (nodup_callOrder now schedule).append (List.nodup_range.filter _) ?_
    intro position member silent
    simpa [calling,member] using (List.mem_filter.mp silent).2
  · by_cases member : position ∈ calling
    · simp [member,lt_of_mem_callOrder member]
    · simp [member]

/-- Requests under way at the same time get the answers, and leave the state, of the
    same requests in turn, in any order in which those that call come as their calls do. -/
theorem runInTurn_of_callOrder {requests : List (Instant × Request)} {state : σ} {schedule order : List Nat}
    {replies : List (Except Refusal Response)}
    (finished : (run settings backend (start requests state) schedule).replies? = some replies)
    (inOrder : InCallOrder settings backend (start requests state) schedule order) :
    runInTurn settings backend state (itemsAt requests order) =
      (itemsAt replies order,(run settings backend (start requests state) schedule).state) := by
  have ended := steps_of_replies? settings finished
  rw [runInTurn_eq,← itemsAt_map,← steps_start settings requests state]
  refine stepsInTurn_of_sublist inOrder.2 (inOrder.1.nodup_iff.mpr List.nodup_range) ?_ (stepsInTurn_calls ended)
  intro position member
  have inside : position < (start requests state).requests.length :=
    List.mem_range.mp (inOrder.1.mem_iff.mp member)
  have answered : position < replies.length := by
    have same := congrArg List.length ended
    simp only [steps,List.length_map,length_requests_run] at same
    exact same ▸ inside
  have here : position < ((start requests state).steps settings).length := by rwa [steps,List.length_map]
  refine ⟨_,_,List.getElem?_eq_getElem here,List.getElem?_eq_getElem answered,fun silent => ?_⟩
  have kept := steps_run_of_not_mem silent
  rw [ended,List.getElem?_map,List.getElem?_eq_getElem here,List.getElem?_eq_getElem answered] at kept
  exact (Option.some.inj kept).symm

/-- A request that has called has an answer. -/
theorem answered_of_mem_callOrder {now : Interleaving σ} {schedule : List Nat} {position : Nat}
    (member : position ∈ callOrder settings backend now schedule) :
    ∃ reply, ((run settings backend now schedule).steps settings)[position]? = some (.answer reply) := by
  induction schedule generalizing now with
  | nil => cases member
  | cons first rest ih =>
    rw [callOrder_cons] at member
    rw [run_cons]
    cases called : now.calls first with
    | false =>
      rw [called,if_neg Bool.false_ne_true] at member
      exact ih member
    | true =>
      rw [called,if_pos rfl] at member
      rcases List.mem_cons.mp member with rfl | later
      · obtain ⟨step,-,-,answered,-⟩ := steps_move_of_calls settings backend called
        exact ⟨_,by rw [steps_run_of_not_mem (not_mem_callOrder_of_answer answered),answered]⟩
      · exact ih later

/-- The answer to a request that calls is what its step comes to at the moment of the
    call, and so is the state then. -/
theorem reply_of_call {requests : List (Instant × Request)} {state : σ} {before after : List Nat} {position : Nat}
    {now : Instant} {request : Request} {replies : List (Except Refusal Response)}
    (finished : (run settings backend (start requests state) (before ++ position :: after)).replies? = some replies)
    (found : requests[position]? = some (now,request))
    (called : (run settings backend (start requests state) before).calls position = true) :
    let earlier := (run settings backend (start requests state) before).state
    (handle settings now request).request?.isSome = true ∧
      replies[position]? = some ((handle settings now request).run backend earlier).1 ∧
      (run settings backend (start requests state) (before ++ [position])).state =
        ((handle settings now request).run backend earlier).2 := by
  obtain ⟨step,left,asks,answered,next⟩ := steps_move_of_calls settings backend called
  -- a request that had called before would have nothing left but its answer
  have first : position ∉ callOrder settings backend (start requests state) before := by
    intro member
    obtain ⟨reply,settled⟩ := answered_of_mem_callOrder member
    rw [left,Option.some.injEq] at settled
    simp [settled,Step.request?] at asks
  obtain rfl : handle settings now request = step := by
    rw [steps_run_of_not_mem first,steps_start,List.getElem?_map,found] at left
    exact Option.some.inj left
  have split : ∀ rest, run settings backend (start requests state) (before ++ position :: rest) =
      run settings backend ((run settings backend (start requests state) before).move settings backend position)
        rest := fun rest => by
    simp only [run,List.foldl_append,List.foldl_cons]
  have ended := steps_of_replies? settings finished
  rw [split] at ended ⊢
  exact ⟨asks,getElem?_replies_of_answer ended answered,next⟩

end Interleaving
end Moves

/-! ### Provisions of one instance -/

/-- A request makes an instance. -/
def Request.Provisions (instanceId : String) (request : Request) : Prop :=
  ∃ details waits, request = .provision instanceId details waits

/-- A request removes an instance. -/
def Request.Deprovisions (instanceId : String) (request : Request) : Prop :=
  ∃ details waits, request = .deprovision instanceId details waits

section Provisions
variable {settings : BrokerSettings} {now : Instant} {count : Nat} {request : Request} {reply : Except Refusal Response}
  {instanceId : String} {memory : Memory}

/-- Only a removal empties a slot. -/
theorem Effect.isSome_of_kept {slot next : Stack.Slot} (effect : Effect settings now count request slot reply next)
    (kept : ¬ request.Deprovisions request.instanceId) (occupied : slot.isSome = true) : next.isSome = true := by
  cases effect with
  | refused | unbound => exact occupied
  | provisioned | updated | bound | told => rfl
  | deprovisioned => exact absurd ⟨_,_,rfl⟩ kept

/-- A provision that is granted fills an empty slot. -/
theorem Effect.filled {slot next : Stack.Slot} {response : Response}
    (effect : Effect settings now count request slot (.ok response) next)
    (provisions : request.Provisions instanceId) : slot = none ∧ next.isSome = true := by
  obtain ⟨details,waits,rfl⟩ := provisions
  cases effect
  exact ⟨rfl,rfl⟩

/-- The stack of an instance stays as long as nothing removes the instance. -/
theorem handle_kept (kept : ¬ request.Deprovisions instanceId)
    (occupied : (memory.get? (stackName settings instanceId)).isSome = true) :
    (((handle settings now request).run Memory.backend memory).2.get? (stackName settings instanceId)).isSome = true := by
  by_cases about : request.instanceId = instanceId
  · subst about
    exact (handle_effect settings now request memory).isSome_of_kept kept occupied
  · rwa [handle_frame settings now request memory fun same => about (stackName_injective same).symm]

/-- A provision that is granted finds no stack of its instance, and leaves one. -/
theorem handle_filled (provisions : request.Provisions instanceId) {response : Response}
    (granted : ((handle settings now request).run Memory.backend memory).1 = .ok response) :
    memory.get? (stackName settings instanceId) = none ∧
      (((handle settings now request).run Memory.backend memory).2.get? (stackName settings instanceId)).isSome =
        true := by
  have effect := handle_effect settings now request memory
  rw [granted] at effect
  obtain ⟨details,waits,rfl⟩ := provisions
  exact effect.filled ⟨details,waits,rfl⟩

/-- A provision that reaches the memory is granted, or it finds the name taken and
    leaves the memory as it was. -/
theorem provision_called (provisions : request.Provisions instanceId)
    (called : (handle settings now request).request?.isSome = true) :
    (∃ response, ((handle settings now request).run Memory.backend memory).1 = .ok response) ∨
      (handle settings now request).run Memory.backend memory =
        (.error (.stack (Memory.taken (stackName settings instanceId))),memory) := by
  obtain ⟨details,waits,rfl⟩ := provisions
  cases allowed : provisionRequest settings now details waits with
  | error refusal => simp [handle,provision,allowed,Step.map,Step.request?] at called
  | ok asked =>
    cases found : memory.get? (stackName settings instanceId) with
    | none =>
      refine .inl ⟨.provisioned ⟨none,true⟩,?_⟩
      simp [handle,provision,allowed,Step.map,Step.run,Memory.backend,Memory.perform,Memory.create,
        StringMap.contains,found,Except.map]
    | some stack =>
      refine .inr ?_
      simp [handle,provision,allowed,Step.map,Step.run,Memory.backend,Memory.perform,Memory.create,
        StringMap.contains,found,Except.map]

/-- The request at a position is a provision of the instance, and it is granted. -/
def Wins (requests : List (Instant × Request)) (replies : List (Except Refusal Response)) (instanceId : String)
    (position : Nat) : Prop :=
  ∃ now request response, requests[position]? = some (now,request) ∧ request.Provisions instanceId ∧
    replies[position]? = some (.ok response)

/-- Of requests in turn that do not remove an instance, none provisions it while it has
    a stack, and at most one does at all. -/
theorem wins_apart {requests : List (Instant × Request)} {replies : List (Except Refusal Response)}
    (kept : ∀ asked ∈ requests, ¬ asked.2.Deprovisions instanceId) {order : List Nat}
    (within : ∀ position ∈ order, position < requests.length ∧ position < replies.length) {last : Memory}
    (inTurn : runInTurn settings Memory.backend memory (itemsAt requests order) = (itemsAt replies order,last)) :
    ((memory.get? (stackName settings instanceId)).isSome = true → ∀ position ∈ order,
        ¬ Wins requests replies instanceId position) ∧
      order.Pairwise fun first second =>
        ¬ (Wins requests replies instanceId first ∧ Wins requests replies instanceId second) := by
  induction order generalizing memory with
  | nil => exact ⟨fun _ => List.forall_mem_nil _,List.Pairwise.nil⟩
  | cons position rest ih =>
    obtain ⟨⟨inside,answered⟩,others⟩ := List.forall_mem_cons.mp within
    have found := List.getElem?_eq_getElem inside
    have given := List.getElem?_eq_getElem answered
    rw [itemsAt_cons found,itemsAt_cons given,runInTurn_eq,List.map_cons,stepsInTurn_cons_eq,← runInTurn_eq] at inTurn
    obtain ⟨here,later⟩ := inTurn
    obtain ⟨taken,apart⟩ := ih others later
    have unchanged := kept _ (List.getElem_mem inside)
    have alone (win : Wins requests replies instanceId position) :
        memory.get? (stackName settings instanceId) = none ∧
          ∀ other ∈ rest, ¬ Wins requests replies instanceId other := by
      obtain ⟨now,request,response,asked,provisions,granted⟩ := win
      rw [found,Option.some.injEq] at asked
      rw [given,Option.some.injEq] at granted
      rw [asked,granted] at here
      rw [asked] at taken
      obtain ⟨free,filled⟩ := handle_filled provisions here
      exact ⟨free,taken filled⟩
    refine ⟨fun occupied => List.forall_mem_cons.mpr ⟨fun win => ?_,taken (handle_kept unchanged occupied)⟩,?_⟩
    · rw [(alone win).1] at occupied
      cases occupied
    · exact List.pairwise_cons.mpr ⟨fun other member both => (alone both.1).2 other member both.2,apart⟩

end Provisions

/-! ### Interleavings over stacks in memory -/

namespace Interleaving

/-- What requests under way at the same time over stacks in memory come to. There is an
    order in which those that call come as their calls do, and in every such order the
    requests in turn get the same answers and leave the same memory. If none of them
    removes an instance, at most one provision of it succeeds, and any other that calls
    finds the name taken and leaves the memory as it was. -/
structure Linearizable (settings : BrokerSettings) (memory : Memory) (requests : List (Instant × Request))
    (schedule : List Nat) (replies : List (Except Refusal Response)) : Prop where
  ordered : ∃ order, InCallOrder settings Memory.backend (start requests memory) schedule order
  inTurn : ∀ order, InCallOrder settings Memory.backend (start requests memory) schedule order →
    runInTurn settings Memory.backend memory (itemsAt requests order) =
      (itemsAt replies order,(run settings Memory.backend (start requests memory) schedule).state)
  exclusive : ∀ instanceId, (∀ asked ∈ requests, ¬ asked.2.Deprovisions instanceId) → ∀ first second,
    Wins requests replies instanceId first → Wins requests replies instanceId second → first = second
  excluded : ∀ instanceId position now request, requests[position]? = some (now,request) →
    request.Provisions instanceId → ¬ Wins requests replies instanceId position →
    ∀ before after, schedule = before ++ position :: after →
      (run settings Memory.backend (start requests memory) before).calls position = true →
      replies[position]? = some (.error (.stack (Memory.taken (stackName settings instanceId)))) ∧
        (run settings Memory.backend (start requests memory) (before ++ [position])).state =
          (run settings Memory.backend (start requests memory) before).state

/-- Requests under way at the same time over stacks in memory come to what they come to
    in turn in the order of their calls. -/
theorem linearizable {settings : BrokerSettings} {memory : Memory} {requests : List (Instant × Request)}
    {schedule : List Nat} {replies : List (Except Refusal Response)}
    (finished : (run settings Memory.backend (start requests memory) schedule).replies? = some replies) :
    Linearizable settings memory requests schedule replies where
  ordered := exists_inCallOrder settings Memory.backend (start requests memory) schedule
  inTurn order inOrder := runInTurn_of_callOrder finished inOrder
  exclusive instanceId kept first second firstWins secondWins := by
    obtain ⟨order,inOrder⟩ := exists_inCallOrder settings Memory.backend (start requests memory) schedule
    have count : requests.length = replies.length := by
      have same := congrArg List.length (steps_of_replies? settings finished)
      simpa [steps,length_requests_run,start] using same
    have listed (position : Nat) : position ∈ order ↔ position < requests.length := by
      rw [inOrder.1.mem_iff,List.mem_range]
      simp [start]
    obtain ⟨-,apart⟩ := wins_apart kept (fun position member => by
      have inside := (listed position).mp member
      exact ⟨inside,count ▸ inside⟩) (runInTurn_of_callOrder finished inOrder)
    have inside {position : Nat} (win : Wins requests replies instanceId position) : position ∈ order := by
      obtain ⟨now,request,response,asked,-,-⟩ := win
      exact (listed position).mpr (List.getElem?_eq_some_iff.mp asked).1
    have symmetric : Std.Symm fun one other =>
        ¬ (Wins requests replies instanceId one ∧ Wins requests replies instanceId other) :=
      ⟨fun _ _ never both => never both.symm⟩
    exact Decidable.byContradiction fun differ =>
      apart.forall (inside firstWins) (inside secondWins) differ ⟨firstWins,secondWins⟩
  excluded instanceId position now request found provisions loses before after split called := by
    subst split
    obtain ⟨asks,given,next⟩ := reply_of_call finished found called
    rcases provision_called provisions asks with ⟨response,granted⟩ | refused
    · exact absurd ⟨now,request,response,found,provisions,by rw [given,granted]⟩ loses
    · rw [refused] at given next
      exact ⟨given,next⟩

/-- Two provisions of one instance, of which the second to arrive is the first to call. -/
theorem linearizable_provisions :
    let asked (plan : String) : Instant × Request := (.epoch,.provision "i" ⟨"db",plan,"org","space",none⟩ true)
    let requests := [asked "small",asked "large"]
    let replies := [.error (.stack (Memory.taken "cf-i")),.ok (.provisioned ⟨none,true⟩)]
    (run sampleSettings Memory.backend (start requests .empty) [0,1,1,0,0,1]).replies? = some replies ∧
      Linearizable sampleSettings .empty requests [0,1,1,0,0,1] replies := by
  intro asked requests replies
  have finished : (run sampleSettings Memory.backend (start requests .empty) [0,1,1,0,0,1]).replies? = some replies := by
    decide +kernel
  exact ⟨finished,linearizable finished⟩

end Interleaving
end StackBroker.Broker
