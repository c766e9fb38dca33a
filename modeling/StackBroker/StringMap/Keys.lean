import Mathlib.Data.List.Nodup
import StackBroker.StringMap.Lookup

/-!
# Keys of string maps

A map has exactly the entries that it looks up (`mem_entries_iff`), so its keys are the
texts for which it has a value. A map that is made of entries with different keys keeps all
of them (`perm_ofList`); where keys are repeated it depends on the entries of each key in
their order, and on nothing else (`ofList_congr`).
-/
namespace StackBroker.StringMap
variable {α : Type} {map : StringMap α} {entries others : List (String × α)} {key : String} {value : α}

theorem lookup_of_mem (distinct : (entries.map Prod.fst).Nodup) (member : (key,value) ∈ entries) :
    entries.lookup key = some value := by
  induction entries with
  | nil => cases member
  | cons head rest ih =>
    obtain ⟨name,kept⟩ := head
    obtain ⟨fresh,distinct⟩ := List.nodup_cons.mp distinct
    rw [lookup_entry]
    rcases List.mem_cons.mp member with same | later
    · obtain ⟨rfl,rfl⟩ := Prod.mk.inj same
      rw [if_pos rfl]
    · have differ : key ≠ name := by
        rintro rfl
        exact fresh (List.mem_map.mpr ⟨(key,value),later,rfl⟩)
      rw [if_neg differ,ih distinct later]

/-- The keys of a map come in strictly increasing order. -/
theorem pairwise_keys (map : StringMap α) : map.keys.Pairwise (· < ·) := List.pairwise_map.mpr map.ascending

theorem nodup_keys (map : StringMap α) : map.keys.Nodup := by
  refine (pairwise_keys map).imp ?_
  rintro first _ below rfl
  exact String.lt_irrefl first below

/-- A map has the entries that it looks up. -/
theorem mem_entries_iff : (key,value) ∈ map.entries ↔ map.get? key = some value :=
  ⟨lookup_of_mem (nodup_keys map),mem_of_lookup⟩

theorem mem_keys_iff : key ∈ map.keys ↔ ∃ value, map.get? key = some value := by
  rw [keys,List.mem_map]
  constructor
  · rintro ⟨⟨name,value⟩,member,rfl⟩
    exact ⟨value,mem_entries_iff.mp member⟩
  · rintro ⟨value,found⟩
    exact ⟨(key,value),mem_entries_iff.mpr found,rfl⟩

/-! ### Maps made of entries -/

theorem get?_ofList_of_nodup (distinct : (entries.map Prod.fst).Nodup) :
    (ofList entries).get? key = some value ↔ (key,value) ∈ entries := by
  have reversed : (entries.reverse.map Prod.fst).Nodup := by rwa [List.map_reverse,List.nodup_reverse]
  rw [ofList,get?_insertAll_reverse,get?_empty,Option.or_none,← List.mem_reverse]
  exact ⟨mem_of_lookup,lookup_of_mem reversed⟩

/-- Entries with different keys are all kept. -/
theorem perm_ofList (distinct : (entries.map Prod.fst).Nodup) : (ofList entries).entries.Perm entries := by
  rw [List.perm_ext_iff_of_nodup (.of_map _ (nodup_keys (ofList entries))) (.of_map _ distinct)]
  rintro ⟨key,value⟩
  rw [mem_entries_iff,get?_ofList_of_nodup distinct]

theorem size_ofList (distinct : (entries.map Prod.fst).Nodup) : (ofList entries).size = entries.length :=
  (perm_ofList distinct).length_eq

/-- Entries with different keys may be put in in any order. -/
theorem ofList_perm (distinct : (entries.map Prod.fst).Nodup) (reordered : entries.Perm others) :
    ofList entries = ofList others := by
  have distinct' : (others.map Prod.fst).Nodup := (reordered.map Prod.fst).nodup_iff.mp distinct
  refine ext_get? fun key => Option.ext fun value => ?_
  rw [get?_ofList_of_nodup distinct,get?_ofList_of_nodup distinct',reordered.mem_iff]

/-- A map has the keys of the entries that it is made of. -/
theorem mem_keys_ofList : key ∈ (ofList entries).keys ↔ key ∈ entries.map Prod.fst := by
  rw [mem_keys_iff,ofList,get?_insertAll_reverse,get?_empty,Option.or_none,← Option.isSome_iff_exists,
    List.lookup_isSome_iff,List.mem_map]
  simp only [List.mem_reverse,beq_iff_eq,@eq_comm _ key]

theorem lookup_filter_eq (entries : List (String × α)) (key : String) :
    (entries.filter (·.1 == key)).lookup key = entries.lookup key := by
  induction entries with
  | nil => rfl
  | cons head rest ih =>
    obtain ⟨name,value⟩ := head
    by_cases same : key = name
    · rw [List.filter_cons_of_pos (by simp [same]),lookup_entry,lookup_entry,if_pos same,if_pos same]
    · rw [List.filter_cons_of_neg (by simp [Ne.symm same]),ih,lookup_entry,if_neg same]

/-- Only the order of the entries with one key matters. -/
theorem ofList_congr (same : ∀ key, entries.filter (·.1 == key) = others.filter (·.1 == key)) :
    ofList entries = ofList others := by
  refine ext_get? fun key => ?_
  rw [ofList,ofList,get?_insertAll_reverse,get?_insertAll_reverse,← lookup_filter_eq entries.reverse,
    ← lookup_filter_eq others.reverse,List.filter_reverse,List.filter_reverse,same]

end StackBroker.StringMap
