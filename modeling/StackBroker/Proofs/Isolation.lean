import StackBroker.Proofs.Effects

/-!
Instances are isolated from one another. Two memories look the same to an instance
if its slots in them differ at most in the count at the end of the id (`SameButCount`),
which does differ where other instances have stacks. No answer tells that count, so
that a request is answered alike in both and leaves them looking the same
(`handle_sameButCount`). A history without the events about other instances is
therefore, for the instance, the same history (`isolation`).
-/
namespace StackBroker.Broker
open StackBroker.Stack (Details Memory Slot)

/-- The same stack under a name, or none, save for the count at the end of its id. -/
inductive SameButCount (name : String) : Slot → Slot → Prop where
  | absent : SameButCount name none none
  | present (stack : Details) (first second : Nat) :
    SameButCount name (some { stack with id := Memory.stackId name first })
      (some { stack with id := Memory.stackId name second })

namespace SameButCount
variable {name : String} {first second : Slot}

theorem isSome_eq (same : SameButCount name first second) : first.isSome = second.isSome := by
  cases same <;> rfl

/-- A change that does not look at ids keeps slots the same. -/
theorem map (same : SameButCount name first second) (change : Details → Details)
    (keeps : ∀ stack id, change { stack with id := id } = { change stack with id := id }) :
    SameButCount name (first.map change) (second.map change) := by
  cases same with
  | absent => exact .absent
  | present stack one two =>
    rw [Option.map_some,Option.map_some,keeps stack (Memory.stackId name one),keeps stack (Memory.stackId name two)]
    exact .present (change stack) one two

end SameButCount

/-- Two results of one request: the same answer, and slots that are the same save
    for the count. -/
def Agree {α : Type} (name : String) (first second : α × Slot) : Prop :=
  first.1 = second.1 ∧ SameButCount name first.2 second.2

/-- A request is answered alike on slots that differ at most in the count, whatever
    count a new stack gets, and leaves slots that differ at most so. -/
theorem handle_sameButCount {settings : BrokerSettings} {request : Request} {first second : Slot}
    (same : SameButCount (stackName settings request.instanceId) first second) (now : Instant)
    (firstCount secondCount : Nat) :
    Agree (stackName settings request.instanceId)
      ((handle settings now request).run (Slot.backend firstCount) first)
      ((handle settings now request).run (Slot.backend secondCount) second) := by
  cases request with
  | provision instanceId details waits =>
    simp only [handle,Step.run_map,provision]
    cases provisionRequest settings now details waits with
    | error refusal => exact ⟨rfl,same⟩
    | ok asked =>
      simp only [Step.run,Slot.backend]
      cases same with
      | absent => exact ⟨rfl,.present (Memory.created (stackName settings instanceId) 0 asked) firstCount secondCount⟩
      | present stack one two =>
        simp only [Slot.perform]
        exact ⟨rfl,.present stack one two⟩
  | update instanceId details waits =>
    simp only [handle,Step.run_map,update]
    cases updateRequest settings details waits with
    | error refusal => exact ⟨rfl,same⟩
    | ok asked =>
      simp only [Step.run,Slot.backend]
      cases same with
      | absent =>
        simp only [Slot.perform]
        exact ⟨rfl,.absent⟩
      | present stack one two => exact ⟨rfl,.present (Memory.modified stack asked) one two⟩
  | deprovision instanceId details waits =>
    simp only [handle,Step.run_map,deprovision]
    cases requireAsync waits with
    | error refusal => exact ⟨rfl,same⟩
    | ok _ => exact ⟨rfl,.absent⟩
  | bind instanceId bindingId details =>
    simp only [handle,Step.run_map,bind]
    cases bindCheck settings details with
    | error refusal => exact ⟨rfl,same⟩
    | ok _ =>
      simp only [Step.run,Slot.backend]
      cases same with
      | absent =>
        simp only [Slot.perform]
        exact ⟨rfl,.absent⟩
      | present stack one two => exact ⟨rfl,.present stack one two⟩
  | unbind instanceId bindingId details => exact ⟨rfl,same⟩
  | lastOperation instanceId =>
    simp only [handle,lastOperation,Step.run,Slot.backend]
    cases same with
    | absent =>
      simp only [Slot.perform]
      exact ⟨rfl,.absent⟩
    | present stack one two => exact ⟨rfl,.present stack one two⟩

/-- Two memories look the same to an instance. -/
def Alike (settings : BrokerSettings) (instanceId : String) (first second : Memory) : Prop :=
  SameButCount (stackName settings instanceId) (first.get? (stackName settings instanceId))
    (second.get? (stackName settings instanceId))

/-- An intervention on the stack of an instance comes to the same in memories that
    look the same to the instance. -/
theorem amend_alike {settings : BrokerSettings} {instanceId : String} {first second : Memory}
    (alike : Alike settings instanceId first second) (change : Details → Details)
    (keeps : ∀ stack id, change { stack with id := id } = { change stack with id := id }) :
    (first.amend (stackName settings instanceId) change).1 = (second.amend (stackName settings instanceId) change).1 ∧
      Alike settings instanceId (first.amend (stackName settings instanceId) change).2
        (second.amend (stackName settings instanceId) change).2 := by
  refine ⟨?_,?_⟩
  · rw [Memory.amend_found,Memory.amend_found]
    exact alike.isSome_eq
  · simpa [Alike] using alike.map change keeps

/-- An event comes to the same in memories that look the same to the instance that
    it is about, and leaves them looking the same. -/
theorem event_alike {settings : BrokerSettings} {instanceId : String} {event : Event}
    (about : event.concerns settings instanceId = true) {first second : Memory}
    (alike : Alike settings instanceId first second) :
    (event.run settings first).1 = (event.run settings second).1 ∧
      Alike settings instanceId (event.run settings first).2 (event.run settings second).2 := by
  cases event with
  | request now request =>
    obtain rfl : request.instanceId = instanceId := by simpa [Event.concerns] using about
    have agree := handle_sameButCount alike now (first.size+1) (second.size+1)
    rw [Step.run_slot (handle_about settings now request),Step.run_slot (handle_about settings now request)] at agree
    exact ⟨congrArg Outcome.replied agree.1,agree.2⟩
  | setStatus name status =>
    obtain rfl : name = stackName settings instanceId := by simpa [Event.concerns] using about
    obtain ⟨found,later⟩ := amend_alike alike (fun stack => { stack with status := status }) fun _ _ => rfl
    exact ⟨congrArg Outcome.amended found,later⟩
  | setOutputs name outputs =>
    obtain rfl : name = stackName settings instanceId := by simpa [Event.concerns] using about
    obtain ⟨found,later⟩ := amend_alike alike (fun stack => { stack with outputs := outputs }) fun _ _ => rfl
    exact ⟨congrArg Outcome.amended found,later⟩

/-- A history and its events about an instance, from memories that look the same to
    the instance. -/
theorem run_alike (settings : BrokerSettings) (instanceId : String) (events : List Event) {whole own : Memory}
    (alike : Alike settings instanceId whole own) :
    (History.outcomes settings whole events).filter (fun entry => entry.1.concerns settings instanceId) =
        History.outcomes settings own (events.filter (Event.concerns settings instanceId)) ∧
      Alike settings instanceId (History.after settings whole events)
        (History.after settings own (events.filter (Event.concerns settings instanceId))) := by
  induction events generalizing whole own with
  | nil => exact ⟨rfl,alike⟩
  | cons event rest ih =>
    have unfolded (memory : Memory) (later : List Event) : History.outcomes settings memory (event :: later) =
        (event,(event.run settings memory).1) :: History.outcomes settings (event.run settings memory).2 later := rfl
    cases about : event.concerns settings instanceId with
    | true =>
      obtain ⟨sameOutcome,sameAfter⟩ := event_alike about alike
      obtain ⟨outcomes,after⟩ := ih sameAfter
      have kept : (event :: rest).filter (Event.concerns settings instanceId) =
          event :: rest.filter (Event.concerns settings instanceId) := List.filter_cons_of_pos about
      rw [kept,unfolded,unfolded,List.filter_cons_of_pos (by simpa using about),outcomes,sameOutcome]
      exact ⟨rfl,after⟩
    | false =>
      -- only the whole history has the event, which may change the count but not the slot
      have unseen : Alike settings instanceId (event.run settings whole).2 own := by
        rw [Alike,event_frame about]
        exact alike
      obtain ⟨outcomes,after⟩ := ih unseen
      have deleted : (event :: rest).filter (Event.concerns settings instanceId) =
          rest.filter (Event.concerns settings instanceId) := List.filter_cons_of_neg (by simp [about])
      rw [deleted,unfolded,List.filter_cons_of_neg (by simp [about])]
      exact ⟨outcomes,after⟩

/-- Without the events about other instances, every event about an instance comes to
    the same, and the stack of the instance at the end is the same save for the count
    at the end of its id. Other instances never have the name of its stack. -/
theorem isolation (settings : BrokerSettings) (events : List Event) (instanceId : String) :
    let own := events.filter (Event.concerns settings instanceId)
    (History.outcomes settings .empty events).filter (fun entry => entry.1.concerns settings instanceId) =
        History.outcomes settings .empty own ∧
      SameButCount (stackName settings instanceId)
        ((History.after settings .empty events).get? (stackName settings instanceId))
        ((History.after settings .empty own).get? (stackName settings instanceId)) ∧
      ∀ other, stackName settings other = stackName settings instanceId ↔ other = instanceId := by
  have alike : Alike settings instanceId .empty .empty := .absent
  obtain ⟨outcomes,after⟩ := run_alike settings instanceId events alike
  exact ⟨outcomes,after,fun other => ⟨stackName_injective,fun same => same ▸ rfl⟩⟩

end StackBroker.Broker
