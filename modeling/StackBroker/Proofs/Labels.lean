import StackBroker.Cuts
import StackBroker.Proofs.Effects

/-!
How the stacks in memory are told apart. The count at the end of an id comes round again once
a stack is deleted, so what makes ids differ is the name in them. A name may have slashes and
digits of its own, but a count has digits only, which the last slash of the id stops: an id is
made of one name (`cuts_stackId`, `name_of_stackId`). Whatever the details it is made of say, a
new stack is labelled with the name it is kept under, and no call and no intervention changes
a label (`perform_labelled`, `amend_labelled`), so all stacks are labelled in every state that
is reached (`Reachable.allLabelled`). A call that fails and an intervention that finds no
stack leave all as it was (`perform_of_error`, `amend_of_false`). `stacks_told_apart` puts
this together.
-/
namespace StackBroker.Stack

namespace Memory
variable {name other : String} {count number : Nat} {stack another details : Details} {memory : Memory}

/-! ### Names in ids -/

/-- Read from its end an id has the digits of its count, then a slash, then its name. -/
theorem cuts_stackId (name : String) (count : Nat) :
    Cuts Char.isDigit (stackId name count).toList.reverse (toString count).toList.reverse
      ('/' :: ("memory:stack/" ++ name).toList.reverse) where
  joined := by simp [stackId]
  within c member := by
    rw [List.mem_reverse,Nat.toString_eq_repr,Nat.toList_repr] at member
    exact Nat.isDigit_of_mem_toDigits (by decide) (by decide) member
  stops c first := by
    obtain rfl : '/' = c := Option.some.inj first
    rfl

theorem name_of_stackId (same : stackId name count = stackId other number) : name = other := by
  have cuts := cuts_stackId other number
  rw [← same] at cuts
  have named : ("memory:stack/" ++ name).toList.reverse = ("memory:stack/" ++ other).toList.reverse :=
    (List.cons.inj ((cuts_stackId name count).unique cuts).2).2
  exact (String.append_right_inj _).mp (String.toList_inj.mp (List.reverse_inj.mp named))

/-! ### Labels -/

/-- A stack bears a name, and has it in its id, before a count. -/
structure Labelled (name : String) (stack : Details) : Prop where
  named : stack.name = name
  identified : ∃ count, 1 ≤ count ∧ stack.id = "memory:stack/" ++ name ++ "/" ++ toString count

theorem labelled_created (name : String) (count : Nat) (details : Details) :
    Labelled name (created name (count+1) details) :=
  ⟨rfl,count+1,Nat.le_add_left 1 count,rfl⟩

namespace Labelled

theorem relabel (labelled : Labelled name stack) (sameName : another.name = stack.name) (sameId : another.id = stack.id) :
    Labelled name another := by
  obtain ⟨count,positive,id⟩ := labelled.identified
  exact ⟨sameName.trans labelled.named,count,positive,sameId.trans id⟩

theorem name_unique (one : Labelled name stack) (two : Labelled other another) (same : stack.id = another.id) :
    name = other := by
  obtain ⟨count,-,first⟩ := one.identified
  obtain ⟨number,-,second⟩ := two.identified
  have ids : stackId name count = stackId other number := first.symm.trans (same.trans second)
  exact name_of_stackId ids

end Labelled

/-- Every stack is labelled with the name that it is kept under. -/
def AllLabelled (memory : Memory) : Prop := ∀ name, ∀ stack ∈ memory.get? name, Labelled name stack

end Memory

/-! ### Calls on a slot -/

namespace Slot
variable {count : Nat} {call : Call} {slot : Slot}

theorem perform_labelled (kept : ∀ stack ∈ slot, Memory.Labelled call.target stack) :
    ∀ stack ∈ (perform (count+1) call slot).2, Memory.Labelled call.target stack := by
  cases call with
  | describe name => cases slot <;> exact kept
  | create name details =>
    cases slot with
    | none =>
      -- whatever name and id the details have, the new stack gets its own
      rintro stack ⟨⟩
      exact Memory.labelled_created name count details
    | some stack => exact kept
  | modify name details =>
    cases slot with
    | none => exact kept
    | some stack =>
      rintro changed ⟨⟩
      exact (kept stack rfl).relabel rfl rfl
  | delete name => rintro stack ⟨⟩

theorem perform_of_error {failure : Failure} (failed : (perform count call slot).1 = .error failure) :
    (perform count call slot).2 = slot := by
  cases call with
  | describe name => cases slot <;> rfl
  | create name details =>
    cases slot with
    | none => cases failed
    | some stack => rfl
  | modify name details =>
    cases slot with
    | none => rfl
    | some stack => cases failed
  | delete name => cases failed

end Slot

/-! ### Calls and interventions in memory -/

namespace Memory
variable {name : String} {memory : Memory} {change : Details → Details}

/-- A call changes the slot of its target. -/
theorem get?_perform (memory : Memory) (call : Call) (name : String) :
    (memory.perform call).2.get? name =
      if name = call.target then (Slot.perform (memory.size+1) call (memory.get? name)).2 else memory.get? name := by
  by_cases own : name = call.target
  · rw [if_pos own,own,perform_slot]
  · rw [if_neg own,perform_frame memory call own]

theorem perform_labelled (kept : AllLabelled memory) (call : Call) : AllLabelled (memory.perform call).2 := by
  intro name stack found
  rw [get?_perform] at found
  split at found
  · rename_i own
    subst own
    exact Slot.perform_labelled (kept call.target) stack found
  · exact kept name stack found

theorem amend_labelled (kept : AllLabelled memory)
    (sameLabel : ∀ stack, (change stack).name = stack.name ∧ (change stack).id = stack.id) :
    AllLabelled (memory.amend name change).2 := by
  intro other stack found
  rw [get?_amend] at found
  split at found
  · obtain ⟨old,held,rfl⟩ := Option.map_eq_some_iff.mp found
    exact (kept other old held).relabel (sameLabel old).1 (sameLabel old).2
  · exact kept other stack found

theorem Reachable.allLabelled (reachable : Reachable memory) : AllLabelled memory := by
  induction reachable with
  | start => rintro name stack ⟨⟩
  | perform call _ kept => exact perform_labelled kept call
  | setStatus name status _ kept => exact amend_labelled kept fun _ => ⟨rfl,rfl⟩
  | setOutputs name outputs _ kept => exact amend_labelled kept fun _ => ⟨rfl,rfl⟩

theorem perform_of_error {call : Call} {failure : Failure} (failed : (memory.perform call).1 = .error failure) :
    (memory.perform call).2 = memory := by
  have failedSlot : (Slot.perform (memory.size+1) call (memory.get? call.target)).1 = .error failure := by
    rw [perform_slot]
    exact failed
  refine StringMap.ext_get? fun name => ?_
  rw [get?_perform]
  split
  · rename_i own
    subst own
    exact Slot.perform_of_error failedSlot
  · rfl

theorem amend_of_false (missed : (memory.amend name change).1 = false) : (memory.amend name change).2 = memory := by
  unfold amend at missed ⊢
  cases found : memory.get? name with
  | none => rfl
  | some stack => simp [found] at missed

theorem create_fresh (fresh : memory.get? name = none) (details : Details) :
    memory.create name details = (.ok (),memory.insert name (created name (memory.size+1) details)) := by
  simp [create,StringMap.contains,fresh]

theorem create_eq_ok_iff {details : Details} : (memory.create name details).1 = .ok () ↔ memory.get? name = none := by
  cases found : memory.get? name <;> simp [create,StringMap.contains,found]

theorem modify_eq_ok_iff {details : Details} :
    (memory.modify name details).1 = .ok () ↔ (memory.get? name).isSome = true := by
  cases found : memory.get? name <;> simp [modify,found]

/-! ### The stacks of a state -/

/-- Stacks are labelled, and told apart by their ids. -/
structure ToldApart (memory : Memory) : Prop where
  labelled : ∀ {name stack}, memory.get? name = some stack → Labelled name stack
  distinct : ∀ {name other stack another}, memory.get? name = some stack → memory.get? other = some another →
    stack.id = another.id → name = other

/-- A creation can be taken back, and what fails leaves all as it was. Only a new name can be
    created, and only a stack that is there be changed. -/
structure Reverts (memory : Memory) : Prop where
  undone : ∀ name details, memory.get? name = none →
    (∃ stack, (memory.create name details).2.get? name = some stack) ∧
      (memory.create name details).2.delete name = (.ok (),memory)
  failed : ∀ call failure, (memory.perform call).1 = .error failure → (memory.perform call).2 = memory
  statusUnset : ∀ name status, (memory.setStatus name status).1 = false → (memory.setStatus name status).2 = memory
  outputsUnset : ∀ name outputs, (memory.setOutputs name outputs).1 = false → (memory.setOutputs name outputs).2 = memory
  creates : ∀ name details, (memory.create name details).1 = .ok () ↔ memory.get? name = none
  modifies : ∀ name details, (memory.modify name details).1 = .ok () ↔ (memory.get? name).isSome = true
  setsStatus : ∀ name status, (memory.setStatus name status).1 = (memory.get? name).isSome
  setsOutputs : ∀ name outputs, (memory.setOutputs name outputs).1 = (memory.get? name).isSome

theorem stacks_told_apart (memory : Memory) : (Reachable memory → ToldApart memory) ∧ Reverts memory where
  left reachable := {
    labelled := fun found => reachable.allLabelled _ _ found
    distinct := fun found held same =>
      (reachable.allLabelled _ _ found).name_unique (reachable.allLabelled _ _ held) same }
  right := {
    undone := fun name details fresh => by
      rw [create_fresh fresh,delete,StringMap.erase_insert fresh]
      exact ⟨⟨_,by rw [StringMap.get?_insert,if_pos rfl]⟩,rfl⟩
    failed := fun _ _ => perform_of_error
    statusUnset := fun _ _ => amend_of_false
    outputsUnset := fun _ _ => amend_of_false
    creates := fun _ _ => create_eq_ok_iff
    modifies := fun _ _ => modify_eq_ok_iff
    setsStatus := fun name _ => memory.amend_found name _
    setsOutputs := fun name _ => memory.amend_found name _ }

/-- Details that speak of another stack, and give an id that is going to be that of a third. -/
def forged : Details :=
  { Details.blank with name := "j", id := "memory:stack/i/2/2", status := .failed }

/-- Two stacks, of which one was made anew, so that both are the second in count. -/
def recreated : Memory :=
  [Call.create "i" forged,.create "i/2" forged,.delete "i",.create "i" forged,.modify "i/2" forged].foldl
    (fun memory call => (memory.perform call).2) .empty

theorem stacks_told_apart_recreated :
    Reachable recreated ∧ (∃ stack other, recreated.get? "i" = some stack ∧ recreated.get? "i/2" = some other ∧
      stack.name = "i" ∧ other.name = "i/2" ∧ stack.id = "memory:stack/i/2" ∧ other.id = "memory:stack/i/2/2" ∧
      stack.id ≠ other.id) ∧
      (recreated.create "j" forged).2.delete "j" = (.ok (),recreated) := by
  have reachable : Reachable recreated :=
    .perform _ (.perform _ (.perform _ (.perform _ (.perform _ .start))))
  obtain ⟨told,reverts⟩ := stacks_told_apart recreated
  have apart := told reachable
  have first : recreated.get? "i" = some (created "i" 2 forged) := by decide +kernel
  have second : recreated.get? "i/2" = some (modified (created "i/2" 2 forged) forged) := by decide +kernel
  have fresh : recreated.get? "j" = none := by decide +kernel
  refine ⟨reachable,⟨_,_,first,second,(apart.labelled first).named,(apart.labelled second).named,rfl,rfl,?_⟩,
    (reverts.undone "j" forged fresh).2⟩
  exact fun same => absurd (apart.distinct first second same) (by decide)

end Memory
end StackBroker.Stack
