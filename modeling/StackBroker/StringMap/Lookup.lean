import StackBroker.StringMap

/-!
# Look-ups in string maps

What each operation does to the look-ups of a map. A map is determined by its
look-ups, so that an equality of maps is shown key by key.
-/
namespace StackBroker.StringMap
variable {α β : Type}

/-! ### Look-ups in entries -/

/-- A look-up takes the first entry with the key. -/
theorem lookup_entry (key name : String) (value : α) (rest : List (String × α)) :
    ((name,value) :: rest).lookup key = if key = name then some value else rest.lookup key := by
  by_cases same : key = name
  · rw [same,List.lookup_cons_self,if_pos rfl]
  · rw [List.lookup_cons,beq_false_of_ne same,if_neg same]

theorem lookup_place (key other : String) (value : α) (entries : List (String × α)) :
    (place key value entries).lookup other = if other = key then some value else entries.lookup other := by
  induction entries with
  | nil => rw [place,lookup_entry]
  | cons head rest ih =>
    obtain ⟨name,old⟩ := head
    rw [place]
    split
    · rw [lookup_entry]
    · split
      · rename_i _ equal
        subst equal
        by_cases same : other = key <;> simp [lookup_entry,same]
      · rename_i _ differ
        by_cases found : other = name
        · subst found
          simp [Ne.symm differ]
        · simp [lookup_entry,found,ih]

theorem lookup_filter_ne (key other : String) (entries : List (String × α)) :
    (entries.filter (fun entry => entry.1 != key)).lookup other =
      if other = key then none else entries.lookup other := by
  induction entries with
  | nil => simp
  | cons head rest ih =>
    obtain ⟨name,value⟩ := head
    by_cases removed : name = key
    · subst removed
      rw [List.filter_cons_of_neg (by simp),ih,lookup_entry]
      by_cases same : other = name <;> simp [same]
    · rw [List.filter_cons_of_pos (by simpa using removed),lookup_entry,ih,lookup_entry]
      by_cases found : other = name
      · subst found
        simp [removed]
      · simp [found]

theorem mem_of_lookup {key : String} {value : α} {entries : List (String × α)}
    (found : entries.lookup key = some value) : (key,value) ∈ entries := by
  induction entries with
  | nil => simp at found
  | cons head rest ih =>
    obtain ⟨name,kept⟩ := head
    rw [lookup_entry] at found
    by_cases same : key = name
    · rw [if_pos same,Option.some.injEq] at found
      rw [same,found]
      exact List.mem_cons_self
    · rw [if_neg same] at found
      exact List.mem_cons_of_mem _ (ih found)

/-- Every key that comes after the first one of ascending entries is another. -/
theorem lookup_first_of_ascending {name : String} {value : α} {rest : List (String × α)}
    (sorted : Ascending ((name,value) :: rest)) : rest.lookup name = none := by
  cases found : rest.lookup name with
  | none => rfl
  | some kept => exact absurd ((List.pairwise_cons.mp sorted).1 _ (mem_of_lookup found)) (String.lt_irrefl name)

/-- Ascending entries with the same look-ups are the same entries. -/
theorem entries_eq_of_lookup {first second : List (String × α)} (sorted : Ascending first)
    (ordered : Ascending second) (same : ∀ key, first.lookup key = second.lookup key) : first = second := by
  induction first generalizing second with
  | nil =>
    cases second with
    | nil => rfl
    | cons head rest =>
      obtain ⟨leader,kept⟩ := head
      exact absurd (same leader) (by simp)
  | cons head rest ih =>
    obtain ⟨name,value⟩ := head
    cases second with
    | nil => exact absurd (same name) (by simp)
    | cons other others =>
      obtain ⟨leader,kept⟩ := other
      have below := List.pairwise_cons.mp sorted
      have above := List.pairwise_cons.mp ordered
      have leads : name = leader := Decidable.byContradiction fun differ => by
        have here := same name
        have there := same leader
        rw [lookup_entry,lookup_entry,if_pos rfl,if_neg differ] at here
        rw [lookup_entry,lookup_entry,if_neg (Ne.symm differ),if_pos rfl] at there
        exact String.lt_asymm (below.1 _ (mem_of_lookup there)) (above.1 _ (mem_of_lookup here.symm))
      subst leads
      have here := same name
      rw [lookup_entry,lookup_entry,if_pos rfl,if_pos rfl,Option.some.injEq] at here
      subst here
      refine congrArg _ (ih below.2 above.2 fun key => ?_)
      by_cases leading : key = name
      · rw [leading,lookup_first_of_ascending sorted,lookup_first_of_ascending ordered]
      · have there := same key
        rwa [lookup_entry,lookup_entry,if_neg leading,if_neg leading] at there

/-! ### Look-ups in maps -/

/-- Maps with the same entries are the same map. -/
theorem ext_entries {first second : StringMap α} (same : first.entries = second.entries) : first = second := by
  obtain ⟨entries,sorted⟩ := first
  obtain ⟨others,ordered⟩ := second
  cases same
  rfl

theorem isEmpty_iff {map : StringMap α} : map.isEmpty = true ↔ map = .empty := by
  rw [isEmpty,List.isEmpty_iff]
  exact ⟨fun none => ext_entries none,fun same => by rw [same]; rfl⟩

/-- Maps with the same look-ups are the same map. -/
theorem ext_get? {first second : StringMap α} (same : ∀ key, first.get? key = second.get? key) :
    first = second :=
  ext_entries (entries_eq_of_lookup first.ascending second.ascending same)

@[simp] theorem get?_empty (key : String) : (empty : StringMap α).get? key = none := rfl

@[simp] theorem get?_insert (map : StringMap α) (key other : String) (value : α) :
    (map.insert key value).get? other = if other = key then some value else map.get? other :=
  lookup_place key other value map.entries

@[simp] theorem get?_erase (map : StringMap α) (key other : String) :
    (map.erase key).get? other = if other = key then none else map.get? other :=
  lookup_filter_ne key other map.entries

/-- What is put under a new key and taken out again leaves nothing behind. -/
theorem erase_insert {map : StringMap α} {key : String} (fresh : map.get? key = none) (value : α) :
    (map.insert key value).erase key = map :=
  ext_get? fun other => by
    rw [get?_erase,get?_insert]
    by_cases same : other = key
    · rw [if_pos same,same,fresh]
    · rw [if_neg same,if_neg same]

@[simp] theorem get?_mapValues (change : α → β) (map : StringMap α) (key : String) :
    (map.mapValues change).get? key = (map.get? key).map change := by
  obtain ⟨entries,sorted⟩ := map
  change (entries.map fun entry => (entry.1,change entry.2)).lookup key = (entries.lookup key).map change
  clear sorted
  induction entries with
  | nil => rfl
  | cons head rest ih =>
    obtain ⟨name,value⟩ := head
    rw [List.map_cons,lookup_entry,lookup_entry,ih]
    by_cases same : key = name <;> simp [same]

/-- Ascending entries that are put into a map win over what it had. -/
theorem get?_insertAll {entries : List (String × α)} (sorted : Ascending entries) (map : StringMap α)
    (key : String) : (map.insertAll entries).get? key = (entries.lookup key).or (map.get? key) := by
  induction entries generalizing map with
  | nil => simp [insertAll]
  | cons head rest ih =>
    obtain ⟨name,value⟩ := head
    have first : map.insertAll ((name,value) :: rest) = (map.insert name value).insertAll rest := rfl
    rw [first,ih (List.pairwise_cons.mp sorted).2,get?_insert,lookup_entry]
    by_cases same : key = name
    · simp [same,lookup_first_of_ascending sorted]
    · simp [same]

/-- Of entries in any order that are put into a map the last one with a key counts. -/
theorem get?_insertAll_reverse (map : StringMap α) (entries : List (String × α)) (key : String) :
    (map.insertAll entries).get? key = (entries.reverse.lookup key).or (map.get? key) := by
  induction entries generalizing map with
  | nil => simp [insertAll]
  | cons head rest ih =>
    obtain ⟨name,value⟩ := head
    have first : map.insertAll ((name,value) :: rest) = (map.insert name value).insertAll rest := rfl
    rw [first,ih,get?_insert,List.reverse_cons,List.lookup_append,lookup_entry,List.lookup_nil]
    by_cases same : key = name <;> simp [same]

/-- A map has for a key the value of the last of the entries with that key that it was made of. -/
theorem get?_ofList_eq_some_iff {entries : List (String × α)} {key : String} {value : α} :
    (ofList entries).get? key = some value ↔
      ∃ before after, entries = before ++ (key,value) :: after ∧ ∀ later ∈ after, later.1 ≠ key := by
  rw [ofList,get?_insertAll_reverse,get?_empty,Option.or_none,List.lookup_eq_some_iff]
  constructor
  · rintro ⟨front,back,split,apart⟩
    refine ⟨back.reverse,front.reverse,?_,fun later member => ?_⟩
    · rw [← List.reverse_reverse entries,split,List.reverse_append,List.reverse_cons,List.append_assoc]
      rfl
    · exact (bne_iff_ne.mp (apart later (List.mem_reverse.mp member))).symm
  · rintro ⟨before,after,rfl,apart⟩
    refine ⟨after.reverse,before.reverse,?_,fun later member => ?_⟩
    · rw [List.reverse_append,List.reverse_cons,List.append_assoc]
      rfl
    · exact bne_iff_ne.mpr (apart later (List.mem_reverse.mp member)).symm

/-- A key of an overlay has the value of the upper map, or else that of the lower. -/
@[simp] theorem get?_overlay (base upper : StringMap α) (key : String) :
    (base.overlay upper).get? key = (upper.get? key).or (base.get? key) :=
  get?_insertAll upper.ascending base key

theorem mem_of_mem_insertAll {entry : String × α} {entries : List (String × α)} {map : StringMap α}
    (member : entry ∈ (map.insertAll entries).entries) : entry ∈ map.entries ∨ entry ∈ entries := by
  induction entries generalizing map with
  | nil => exact .inl member
  | cons head rest ih =>
    have first : map.insertAll (head :: rest) = (map.insert head.1 head.2).insertAll rest := rfl
    rw [first] at member
    rcases ih member with placed | later
    · rcases mem_place placed with same | old
      · exact .inr (same ▸ List.mem_cons_self)
      · exact .inl old
    · exact .inr (List.mem_cons_of_mem _ later)

/-- The entries of a map are among those that it was made of. -/
theorem mem_of_mem_ofList {entry : String × α} {entries : List (String × α)}
    (member : entry ∈ (ofList entries).entries) : entry ∈ entries := by
  rcases mem_of_mem_insertAll member with none | found
  · cases none
  · exact found

/-- A map is made again from its own entries. -/
@[simp] theorem ofList_entries (map : StringMap α) : ofList map.entries = map :=
  ext_get? fun key => by
    rw [ofList,get?_insertAll map.ascending,get?_empty,Option.or_none]
    rfl

end StackBroker.StringMap
