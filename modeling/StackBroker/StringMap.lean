/-!
# Maps from strings

Tags, parameters, outputs and credentials are finite maps from strings. A map is
the list of its entries in strictly increasing key order, so that two maps with
the same lookups are the same term and every listing of a map is in key order.
The order is that of code points, which is also the order of the UTF-8 bytes.
-/
namespace StackBroker

/-- The entries of a map come in strictly increasing key order. -/
def Ascending {α : Type} (entries : List (String × α)) : Prop :=
  entries.Pairwise (fun first second => first.1 < second.1)

instance {α : Type} (entries : List (String × α)) : Decidable (Ascending entries) :=
  inferInstanceAs (Decidable (entries.Pairwise _))

/-- A finite map from strings, as its entries in key order. -/
structure StringMap (α : Type) where
  entries : List (String × α)
  ascending : Ascending entries := by decide
deriving DecidableEq, Repr

namespace StringMap
variable {α β : Type}

/-- The map without entries. -/
def empty : StringMap α := ⟨[],List.Pairwise.nil⟩

instance : Inhabited (StringMap α) := ⟨empty⟩
instance : EmptyCollection (StringMap α) := ⟨empty⟩

def isEmpty (map : StringMap α) : Bool := map.entries.isEmpty

def size (map : StringMap α) : Nat := map.entries.length

def keys (map : StringMap α) : List String := map.entries.map Prod.fst

/-- The value of a key, if the map has one. -/
def get? (map : StringMap α) (key : String) : Option α := map.entries.lookup key

def contains (map : StringMap α) (key : String) : Bool := (map.get? key).isSome

/-! ### Putting an entry in its place -/

/-- Puts an entry where its key belongs, in the place of an entry with that key. -/
def place (key : String) (value : α) : List (String × α) → List (String × α)
  | [] => [(key,value)]
  | (other,old) :: rest =>
    if key < other then (key,value) :: (other,old) :: rest
    else if key = other then (key,value) :: rest
    else (other,old) :: place key value rest

theorem mem_place {key : String} {value : α} {entry : String × α} {entries : List (String × α)} :
    entry ∈ place key value entries → entry = (key,value) ∨ entry ∈ entries := by
  induction entries with
  | nil => simp [place]
  | cons head rest ih =>
    obtain ⟨other,old⟩ := head
    rw [place]
    split
    · simp
    · split
      · intro member
        rcases List.mem_cons.mp member with same | later
        · exact .inl same
        · exact .inr (List.mem_cons_of_mem _ later)
      · intro member
        rcases List.mem_cons.mp member with same | later
        · exact .inr (same ▸ List.mem_cons_self)
        · exact (ih later).imp_right (List.mem_cons_of_mem _)

private theorem lt_of_not_lt_of_ne {first second : String} (notBelow : ¬ first < second) (differ : first ≠ second) :
    second < first :=
  Decidable.byContradiction fun notAbove => differ (String.le_antisymm notAbove notBelow)

theorem ascending_place (key : String) (value : α) {entries : List (String × α)} (sorted : Ascending entries) :
    Ascending (place key value entries) := by
  induction entries with
  | nil => exact List.pairwise_singleton _ _
  | cons head rest ih =>
    obtain ⟨other,old⟩ := head
    have tail := List.pairwise_cons.mp sorted
    rw [place]
    split
    · rename_i below
      refine List.Pairwise.cons ?_ sorted
      intro entry member
      rcases List.mem_cons.mp member with same | later
      · exact same ▸ below
      · exact String.lt_trans below (tail.1 entry later)
    · split
      · rename_i _ same
        exact List.Pairwise.cons (fun entry later => by rw [same]; exact tail.1 entry later) tail.2
      · rename_i notBelow differ
        refine List.Pairwise.cons ?_ (ih tail.2)
        intro entry member
        rcases mem_place member with same | later
        · exact same ▸ lt_of_not_lt_of_ne notBelow differ
        · exact tail.1 entry later

/-- The map with a key set to a value. -/
def insert (map : StringMap α) (key : String) (value : α) : StringMap α :=
  ⟨place key value map.entries,ascending_place key value map.ascending⟩

/-- The map without a key. -/
def erase (map : StringMap α) (key : String) : StringMap α :=
  ⟨map.entries.filter (fun entry => entry.1 != key),map.ascending.filter _⟩

/-- The map with every entry of a list put in, in the order of the list, so that
    of two entries with one key the later stays. -/
def insertAll (map : StringMap α) (entries : List (String × α)) : StringMap α :=
  entries.foldl (fun sofar entry => sofar.insert entry.1 entry.2) map

/-- The map of the entries of a list; of two entries with one key the later stays. -/
def ofList (entries : List (String × α)) : StringMap α := empty.insertAll entries

/-- The map that lays a second map over a first: the second wins on common keys. -/
def overlay (base upper : StringMap α) : StringMap α := base.insertAll upper.entries

theorem ascending_map (change : α → β) {entries : List (String × α)} (sorted : Ascending entries) :
    Ascending (entries.map (fun entry => (entry.1,change entry.2))) := by
  unfold Ascending at sorted ⊢
  rw [List.pairwise_map]
  exact sorted

/-- The map with every value changed and every key kept. -/
def mapValues (change : α → β) (map : StringMap α) : StringMap β :=
  ⟨map.entries.map (fun entry => (entry.1,change entry.2)),ascending_map change map.ascending⟩

end StringMap
end StackBroker
