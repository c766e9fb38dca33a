import StackBroker.Parameters
import StackBroker.StringMap.Keys

/-!
The laws of laying one map over another. A key of an overlay has the value of the upper map,
or else that of the lower (`StringMap.get?_overlay`), and maps with the same look-ups are the
same, so every law of overlays is one of `Option.or` at each key. The maps are not exchanged
freely: an overlay is the same both ways round exactly if the maps agree wherever both have a
value (`StringMap.overlay_comm_iff`). Parameters of a caller are merged with defaults by
such an overlay (`merging_laws`).
-/
namespace StackBroker

namespace StringMap
variable {α : Type} {base upper top : StringMap α}

/-- Two maps have the same value for every key that both have. -/
def Agree (first second : StringMap α) : Prop :=
  ∀ key one other, first.get? key = some one → second.get? key = some other → one = other

theorem mem_keys_overlay {key : String} : key ∈ (base.overlay upper).keys ↔ key ∈ base.keys ∨ key ∈ upper.keys := by
  simp only [mem_keys_iff,get?_overlay]
  cases upper.get? key with
  | none => simp
  | some value => simp

theorem overlay_assoc (base upper top : StringMap α) :
    (base.overlay upper).overlay top = base.overlay (upper.overlay top) :=
  ext_get? fun key => by rw [get?_overlay,get?_overlay,get?_overlay,get?_overlay,Option.or_assoc]

@[simp] theorem empty_overlay (map : StringMap α) : empty.overlay map = map :=
  ext_get? fun key => by rw [get?_overlay,get?_empty,Option.or_none]

@[simp] theorem overlay_empty (map : StringMap α) : map.overlay empty = map :=
  ext_get? fun key => by rw [get?_overlay,get?_empty,Option.none_or]

@[simp] theorem overlay_self (map : StringMap α) : map.overlay map = map :=
  ext_get? fun key => by rw [get?_overlay,Option.or_self]

/-- Laying the same map over once more changes nothing. -/
theorem overlay_overlay_self (base upper : StringMap α) :
    (base.overlay upper).overlay upper = base.overlay upper := by
  rw [overlay_assoc,overlay_self]

theorem overlay_comm_iff : base.overlay upper = upper.overlay base ↔ Agree base upper := by
  constructor
  · intro same key low high found foundAbove
    have here := congrArg (fun map => map.get? key) same
    simpa [found,foundAbove] using here.symm
  · intro agree
    refine ext_get? fun key => ?_
    rw [get?_overlay,get?_overlay]
    cases found : base.get? key with
    | none => rw [Option.or_none,Option.none_or]
    | some low =>
      cases foundAbove : upper.get? key with
      | none => rfl
      | some high => rw [agree key low high found foundAbove]

end StringMap

namespace Parameters

/-- How defaults and the parameters of callers are merged, and the laws of merging. -/
structure MergingLaws : Prop where
  /-- The value of a caller counts, or else the default. -/
  found : ∀ defaults overrides key,
    (merge defaults overrides).get? key = (overrides.get? key).or (defaults.get? key)
  increasing : ∀ defaults overrides, (merge defaults overrides).keys.Pairwise (· < ·)
  union : ∀ defaults overrides key,
    key ∈ (merge defaults overrides).keys ↔ key ∈ defaults.keys ∨ key ∈ overrides.keys
  associative : ∀ defaults overrides others,
    merge (merge defaults overrides) others = merge defaults (merge overrides others)
  noDefaults : ∀ overrides, merge .empty overrides = overrides
  noOverrides : ∀ defaults, merge defaults .empty = defaults
  same : ∀ defaults, merge defaults defaults = defaults
  again : ∀ defaults overrides, merge (merge defaults overrides) overrides = merge defaults overrides
  exchanged : ∀ defaults overrides, merge defaults overrides = merge overrides defaults ↔
    StringMap.Agree defaults overrides

theorem merging_laws : MergingLaws where
  found defaults overrides key := StringMap.get?_overlay defaults overrides key
  increasing defaults overrides := StringMap.pairwise_keys (merge defaults overrides)
  union _ _ _ := StringMap.mem_keys_overlay
  associative := StringMap.overlay_assoc
  noDefaults := StringMap.empty_overlay
  noOverrides := StringMap.overlay_empty
  same := StringMap.overlay_self
  again := StringMap.overlay_overlay_self
  exchanged _ _ := StringMap.overlay_comm_iff

end Parameters
end StackBroker
