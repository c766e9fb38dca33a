/-!
Where lists are cut. A run of items that have a property ends at the first item that does
not have it, so a list is cut in one way only (`Cuts.unique`), and the longest run is found
there (`Cuts.takeWhile_eq`). A search by name cuts a list at the first item that bears the
name (`find?_named_eq_some_iff`).
-/
namespace StackBroker
variable {α : Type} {property : α → Bool} {items run rest : List α}

/-- A list begins with a run of items that have a property, and what follows it, if
    anything, begins with an item that does not. -/
structure Cuts (property : α → Bool) (items run rest : List α) : Prop where
  joined : items = run ++ rest
  within : ∀ item ∈ run, property item = true
  stops : ∀ item ∈ rest.head?, property item = false

theorem cuts_takeWhile (property : α → Bool) (items : List α) :
    Cuts property items (items.takeWhile property) (items.dropWhile property) := by
  refine ⟨List.takeWhile_append_dropWhile.symm,fun item member => ?_,fun item first => ?_⟩
  · exact List.all_eq_true.mp List.all_takeWhile item member
  · have found := List.head?_dropWhile_not property items
    rw [first] at found
    exact found

namespace Cuts

theorem takeWhile_eq (cuts : Cuts property items run rest) : items.takeWhile property = run := by
  have none : rest.takeWhile property = [] := by
    cases rest with
    | nil => rfl
    | cons item others => exact List.takeWhile_cons_of_neg (by simp [cuts.stops item rfl])
  rw [cuts.joined,List.takeWhile_append_of_pos cuts.within,none,List.append_nil]

theorem dropWhile_eq (cuts : Cuts property items run rest) : items.dropWhile property = rest := by
  have whole := (cuts_takeWhile property items).joined
  rw [cuts.takeWhile_eq] at whole
  exact (List.append_cancel_left (cuts.joined.symm.trans whole)).symm

theorem unique {otherRun otherRest : List α} (one : Cuts property items run rest)
    (other : Cuts property items otherRun otherRest) : run = otherRun ∧ rest = otherRest :=
  ⟨one.takeWhile_eq.symm.trans other.takeWhile_eq,one.dropWhile_eq.symm.trans other.dropWhile_eq⟩

end Cuts

theorem find?_named_eq_some_iff {named : α → String} {name : String} {item : α} :
    items.find? (named · == name) = some item ↔ ∃ before after, items = before ++ item :: after ∧
      (∀ other ∈ before, named other ≠ name) ∧ named item = name := by
  rw [List.find?_eq_some_iff_append]
  constructor
  · rintro ⟨bears,before,after,split,others⟩
    exact ⟨before,after,split,by simpa using others,beq_iff_eq.mp bears⟩
  · rintro ⟨before,after,split,others,bears⟩
    exact ⟨beq_iff_eq.mpr bears,before,after,split,by simpa using others⟩

end StackBroker
