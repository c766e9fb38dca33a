/-!
Checks and their conditions. A check is made of smaller ones, one after the other, and it
tells the first of its conditions that is not met (`Tells`). Both outcomes follow: it passes
exactly if all conditions are met (`Tells.eq_ok_iff`), and it fails with a fault exactly if
the fault is that of the first condition that is not met (`Tells.eq_error_iff`), of which
there is at most one (`FirstUnmet.unique`).
-/
namespace StackBroker

/-- Something that has to be met, and the fault that tells that it is not. -/
structure Condition (ε : Type) where
  met : Prop
  fault : ε

variable {ε δ α β : Type}

/-- The condition with its fault told in another way. -/
def Condition.relay (tell : ε → δ) (condition : Condition ε) : Condition δ := ⟨condition.met,tell condition.fault⟩

/-- All of some conditions are met. -/
def AllMet (conditions : List (Condition ε)) : Prop := ∀ condition ∈ conditions, condition.met

/-- A fault is that of the first of some conditions that is not met. -/
def FirstUnmet (conditions : List (Condition ε)) (fault : ε) : Prop :=
  ∃ before condition after, conditions = before ++ condition :: after ∧ AllMet before ∧ ¬ condition.met ∧
    condition.fault = fault

/-! ### Conditions one after the other -/

theorem allMet_nil : AllMet ([] : List (Condition ε)) := List.forall_mem_nil _

theorem allMet_cons {first : Condition ε} {rest : List (Condition ε)} :
    AllMet (first :: rest) ↔ first.met ∧ AllMet rest := List.forall_mem_cons

theorem allMet_append {first second : List (Condition ε)} : AllMet (first ++ second) ↔ AllMet first ∧ AllMet second :=
  List.forall_mem_append

theorem allMet_flatMap {items : List α} {conditions : α → List (Condition ε)} :
    AllMet (items.flatMap conditions) ↔ ∀ item ∈ items, AllMet (conditions item) := List.forall_mem_flatMap

theorem allMet_relay {conditions : List (Condition ε)} {tell : ε → δ} :
    AllMet (conditions.map (Condition.relay tell)) ↔ AllMet conditions := List.forall_mem_map

theorem not_firstUnmet_nil (fault : ε) : ¬ FirstUnmet [] fault := by
  rintro ⟨before,condition,after,split,-⟩
  simp at split

/-- A condition that is met passes on to the next. -/
theorem firstUnmet_cons {first : Condition ε} {rest : List (Condition ε)} {fault : ε} :
    FirstUnmet (first :: rest) fault ↔ ¬ first.met ∧ first.fault = fault ∨ first.met ∧ FirstUnmet rest fault := by
  constructor
  · rintro ⟨before,condition,after,split,passed,unmet,told⟩
    cases before with
    | nil =>
      obtain ⟨rfl,rfl⟩ := List.cons.inj split
      exact .inl ⟨unmet,told⟩
    | cons head before =>
      obtain ⟨rfl,rfl⟩ := List.cons.inj split
      obtain ⟨here,passed⟩ := allMet_cons.mp passed
      exact .inr ⟨here,before,condition,after,rfl,passed,unmet,told⟩
  · rintro (⟨unmet,told⟩ | ⟨here,before,condition,after,rfl,passed,unmet,told⟩)
    · exact ⟨[],first,rest,rfl,allMet_nil,unmet,told⟩
    · exact ⟨first :: before,condition,after,rfl,allMet_cons.mpr ⟨here,passed⟩,unmet,told⟩

theorem firstUnmet_append {first second : List (Condition ε)} {fault : ε} :
    FirstUnmet (first ++ second) fault ↔ FirstUnmet first fault ∨ AllMet first ∧ FirstUnmet second fault := by
  induction first with
  | nil => simp [not_firstUnmet_nil,allMet_nil]
  | cons condition rest ih =>
    rw [List.cons_append,firstUnmet_cons,firstUnmet_cons,ih,allMet_cons,and_or_left,or_assoc,and_assoc]

theorem FirstUnmet.not_allMet {conditions : List (Condition ε)} {fault : ε} (first : FirstUnmet conditions fault) :
    ¬ AllMet conditions := by
  obtain ⟨before,condition,after,rfl,-,unmet,-⟩ := first
  exact fun all => unmet (all condition (by simp))

/-- Of conditions that are not all met there is a first. -/
theorem exists_firstUnmet {conditions : List (Condition ε)} (unmet : ¬ AllMet conditions) :
    ∃ fault, FirstUnmet conditions fault := by
  induction conditions with
  | nil => exact absurd allMet_nil unmet
  | cons condition rest ih =>
    by_cases met : condition.met
    · obtain ⟨fault,first⟩ := ih fun all => unmet (allMet_cons.mpr ⟨met,all⟩)
      exact ⟨fault,firstUnmet_cons.mpr (.inr ⟨met,first⟩)⟩
    · exact ⟨condition.fault,firstUnmet_cons.mpr (.inl ⟨met,rfl⟩)⟩

theorem FirstUnmet.unique {conditions : List (Condition ε)} {one other : ε} (first : FirstUnmet conditions one)
    (second : FirstUnmet conditions other) : one = other := by
  induction conditions with
  | nil => exact absurd first (not_firstUnmet_nil one)
  | cons condition rest ih =>
    rcases firstUnmet_cons.mp first with ⟨unmet,rfl⟩ | ⟨met,later⟩
    · rcases firstUnmet_cons.mp second with ⟨-,same⟩ | ⟨met,-⟩
      · exact same
      · exact absurd met unmet
    · rcases firstUnmet_cons.mp second with ⟨unmet,-⟩ | ⟨-,later'⟩
      · exact absurd met unmet
      · exact ih later later'

theorem FirstUnmet.relay {conditions : List (Condition ε)} {fault : ε} (first : FirstUnmet conditions fault)
    (tell : ε → δ) : FirstUnmet (conditions.map (Condition.relay tell)) (tell fault) := by
  obtain ⟨before,condition,after,rfl,passed,unmet,rfl⟩ := first
  exact ⟨_,_,_,List.map_append,allMet_relay.mpr passed,unmet,rfl⟩

/-! ### Checks -/

/-- A check tells the first of some conditions that is not met, and passes if all are. -/
structure Tells (conditions : List (Condition ε)) (check : Except ε α) : Prop where
  passed : ∀ value, check = .ok value → AllMet conditions
  failed : ∀ fault, check = .error fault → FirstUnmet conditions fault

namespace Tells
variable {conditions before after : List (Condition ε)} {check : Except ε α} {next : α → Except ε β}

theorem eq_error_iff (tells : Tells conditions check) {fault : ε} :
    check = .error fault ↔ FirstUnmet conditions fault := by
  refine ⟨tells.failed fault,fun first => ?_⟩
  cases came : check with
  | ok value => exact absurd (tells.passed value came) first.not_allMet
  | error other => rw [(tells.failed other came).unique first]

theorem exists_eq_ok_iff (tells : Tells conditions check) : (∃ value, check = .ok value) ↔ AllMet conditions := by
  refine ⟨fun ⟨value,came⟩ => tells.passed value came,fun all => ?_⟩
  cases came : check with
  | ok value => exact ⟨value,rfl⟩
  | error fault => exact absurd all (tells.failed fault came).not_allMet

theorem eq_ok_iff {check : Except ε Unit} (tells : Tells conditions check) : check = .ok () ↔ AllMet conditions :=
  Iff.trans ⟨fun came => ⟨(),came⟩,fun ⟨(),came⟩ => came⟩ tells.exists_eq_ok_iff

theorem of_ok {value : α} (came : check = .ok value) (all : AllMet conditions) : Tells conditions check where
  passed _ _ := all
  failed fault failed := by
    rw [came] at failed
    cases failed

theorem of_error {fault : ε} (came : check = .error fault) (first : FirstUnmet conditions fault) :
    Tells conditions check where
  passed value passed := by
    rw [came] at passed
    cases passed
  failed other failed := by
    obtain rfl : fault = other := Except.error.inj (came.symm.trans failed)
    exact first

theorem ok (value : α) : Tells [] (.ok value : Except ε α) := of_ok rfl allMet_nil

/-- A check of one condition. -/
theorem single {condition : Condition ε} (met : condition.met → ∃ value, check = .ok value)
    (unmet : ¬ condition.met → check = .error condition.fault) : Tells [condition] check := by
  by_cases holds : condition.met
  · obtain ⟨value,came⟩ := met holds
    exact of_ok came (allMet_cons.mpr ⟨holds,allMet_nil⟩)
  · exact of_error (unmet holds) (firstUnmet_cons.mpr (.inl ⟨holds,rfl⟩))

/-- A check of one condition, that something can be found. -/
theorem search {condition : Condition ε} {found : Option β} (met : condition.met ↔ ∃ item, found = some item)
    (hit : ∀ item, found = some item → ∃ value, check = .ok value)
    (miss : found = none → check = .error condition.fault) : Tells [condition] check := by
  cases came : found with
  | none =>
    refine single (fun holds => ?_) fun _ => miss came
    obtain ⟨item,here⟩ := met.mp holds
    rw [came] at here
    cases here
  | some item => exact single (fun _ => hit item came) fun unmet => absurd (met.mpr ⟨item,came⟩) unmet

/-- One check after another, which is made only once the first has passed. -/
theorem bind (first : Tells before check) (second : ∀ value, check = .ok value → Tells after (next value)) :
    Tells (before ++ after) (check >>= next) := by
  cases came : check with
  | error fault => exact of_error rfl (firstUnmet_append.mpr (.inl (first.failed fault came)))
  | ok value =>
    have all := first.passed value came
    have tells := second value came
    refine ⟨fun last passed => allMet_append.mpr ⟨all,tells.passed last passed⟩,fun fault failed => ?_⟩
    exact firstUnmet_append.mpr (.inr ⟨all,tells.failed fault failed⟩)

/-- A check of one condition before others, which may count on it. -/
theorem cons {condition : Condition ε} (first : Tells [condition] check)
    (second : ∀ value, check = .ok value → condition.met → Tells after (next value)) :
    Tells (condition :: after) (check >>= next) :=
  bind first fun value came => second value came (allMet_cons.mp (first.passed value came)).1

/-- A condition that is known to be met needs no check. -/
theorem skip {condition : Condition ε} (met : condition.met) (rest : Tells after check) :
    Tells (condition :: after) check where
  passed value came := allMet_cons.mpr ⟨met,rest.passed value came⟩
  failed fault came := firstUnmet_cons.mpr (.inr ⟨met,rest.failed fault came⟩)

theorem forM {items : List α} {parts : α → List (Condition ε)} {each : α → Except ε Unit}
    (tells : ∀ item ∈ items, Tells (parts item) (each item)) : Tells (items.flatMap parts) (items.forM each) := by
  induction items with
  | nil => exact ok ()
  | cons item rest ih =>
    obtain ⟨here,later⟩ := List.forall_mem_cons.mp tells
    rw [List.flatMap_cons]
    exact bind here fun _ _ => ih later

theorem mapError (tells : Tells conditions check) (tell : ε → δ) :
    Tells (conditions.map (Condition.relay tell)) (check.mapError tell) := by
  cases came : check with
  | ok value => exact of_ok rfl (allMet_relay.mpr (tells.passed value came))
  | error fault => exact of_error rfl ((tells.failed fault came).relay tell)

/-- What comes of a check that has passed is no part of it. -/
theorem map (tells : Tells conditions check) (change : α → β) : Tells conditions (check.map change) := by
  cases came : check with
  | ok value => exact of_ok rfl (tells.passed value came)
  | error fault => exact of_error rfl (tells.failed fault came)

end Tells
end StackBroker
