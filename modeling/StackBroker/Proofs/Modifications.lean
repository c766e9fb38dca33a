import StackBroker.Proofs.Classification
import StackBroker.Proofs.CreationArguments

/-!
What an update leaves alone. Rollback, failure policy, tags and timeout are settings of a
creation. The settings of an update are those of a creation without these (`update_eq`), and
details without these set none of them and all others as before (`unset_of_creationOnly`,
`kept_of_not_creationOnly`); thus an update is written as the creation of what is left
(`update_eq_create`). In memory a modified stack is determined by what it keeps of the stack
that was there and what it takes from the request (`eq_modified_iff`), and a request that
differs only in settings of a creation does the same (`modify_withoutCreation`).
`updates_leave_creation` puts the two next to each other.
-/
namespace StackBroker.Stack

/-- The details without the settings of a creation, as if none of these had been given. -/
def Details.withoutCreation (details : Details) : Details :=
  { details with
    disableRollback := false
    onFailure := none
    tags := .empty
    timeoutInMinutes := none }

/-! ### Updates through a command line -/

namespace Arguments

/-- The flags of the settings that only a creation has. -/
def creationFlags : List String := ["--disable-rollback","--on-failure","--tags","--timeout-in-minutes"]

/-- An update has the setting. -/
def Setting.updates (part : Setting) : Bool := !creationFlags.contains part.flag

variable {parts : List Setting} {details : Details}

theorem update_eq (name : String) (details : Details) :
    update name details = subject name details ++ written (settings.filter Setting.updates) details := by
  have shared : settings.filter Setting.updates = [
      ⟨"--capabilities",fun details => filled details.capabilities⟩,
      ⟨"--notification-arns",fun details => filled details.notificationArns⟩,
      ⟨"--parameters",fun details => (entered details.parameters).map fun map => [parametersText map]⟩,
      ⟨"--resource-types",fun details => filled details.resourceTypes⟩,
      ⟨"--stack-policy-url",fun details => (details.stackPolicyUrl.filter (· ≠ "")).map fun url => [url]⟩] := rfl
  simp only [shared,written,List.flatMap_cons,List.flatMap_nil,emitted_filled,emitted_entered,emitted_policyUrl,update,
    List.append_assoc,List.append_nil]
  rfl

/-- Settings that are not set may be left out. -/
theorem written_filter {keep : Setting → Bool} (unset : ∀ part ∈ parts, keep part = false → part.values details = none) :
    written (parts.filter keep) details = written parts details := by
  induction parts with
  | nil => rfl
  | cons part rest ih =>
    obtain ⟨here,later⟩ := List.forall_mem_cons.mp unset
    have split : written (part :: rest) details = emitted part.flag (part.values details) ++ written rest details :=
      List.flatMap_cons
    cases kept : keep part with
    | false => rw [List.filter_cons_of_neg (by simp [kept]),ih later,split,here kept,emitted,List.nil_append]
    | true =>
      rw [List.filter_cons_of_pos kept,split,← ih later]
      exact List.flatMap_cons

theorem unset_of_creationOnly (details : Details) :
    ∀ part ∈ settings, part.updates = false → part.values details.withoutCreation = none := by
  simp only [settings,List.forall_mem_cons]
  refine ⟨?capabilities,fun _ => rfl,?arns,fun _ => rfl,?parameters,?types,?url,fun _ => rfl,fun _ => rfl,
    List.forall_mem_nil _⟩
  all_goals exact fun own => absurd own (by decide)

theorem kept_of_not_creationOnly (details : Details) :
    ∀ part ∈ settings, part.updates = true → part.values details.withoutCreation = part.values details := by
  simp only [settings,List.forall_mem_cons]
  refine ⟨fun _ => rfl,?rollback,fun _ => rfl,?policy,fun _ => rfl,fun _ => rfl,fun _ => rfl,?tags,?timeout,
    List.forall_mem_nil _⟩
  all_goals exact fun shared => absurd shared (by decide)

/-- An update is written as the creation of what is left without the settings of a creation. -/
theorem update_eq_create (name : String) (details : Details) :
    update name details = create name details.withoutCreation := by
  have kept : ∀ part ∈ settings.filter Setting.updates, part.values details = part.values details.withoutCreation := by
    intro part inside
    obtain ⟨listed,updates⟩ := List.mem_filter.mp inside
    exact (kept_of_not_creationOnly details part listed updates).symm
  calc
    update name details = subject name details ++ written (settings.filter Setting.updates) details := update_eq name details
    _ = subject name details ++ written (settings.filter Setting.updates) details.withoutCreation := by
      rw [written_congr kept]
    _ = subject name details ++ written settings details.withoutCreation := by
      rw [written_filter (unset_of_creationOnly details)]
    _ = create name details.withoutCreation := (create_eq name details.withoutCreation).symm

/-- What is left sets what the details set, but for the settings of a creation. -/
theorem sets_withoutCreation {flag : String} {values : List String} :
    Sets details.withoutCreation flag values ↔ Sets details flag values ∧ flag ∉ creationFlags := by
  rw [sets_iff,sets_iff]
  constructor
  · rintro ⟨part,listed,rfl,chosen⟩
    cases updates : part.updates with
    | false =>
      rw [unset_of_creationOnly details part listed updates] at chosen
      cases chosen
    | true =>
      rw [kept_of_not_creationOnly details part listed updates] at chosen
      exact ⟨⟨part,listed,rfl,chosen⟩,by simpa [Setting.updates] using updates⟩
  · rintro ⟨⟨part,listed,rfl,chosen⟩,shared⟩
    have updates : part.updates = true := by simpa [Setting.updates] using shared
    exact ⟨part,listed,rfl,(kept_of_not_creationOnly details part listed updates).trans chosen⟩

end Arguments

/-! ### Modifications in memory -/

/-- A stack keeps what belongs to its creation, its outputs and its names. -/
structure KeepsCreation (before after : Details) : Prop where
  name : after.name = before.name
  id : after.id = before.id
  description : after.description = before.description
  outputs : after.outputs = before.outputs
  tags : after.tags = before.tags
  disableRollback : after.disableRollback = before.disableRollback
  onFailure : after.onFailure = before.onFailure
  timeoutInMinutes : after.timeoutInMinutes = before.timeoutInMinutes

/-- A stack has become what was asked for, as far as that can change. -/
structure TakesShape (asked after : Details) : Prop where
  templateUrl : after.templateUrl = asked.templateUrl
  capabilities : after.capabilities = asked.capabilities
  notificationArns : after.notificationArns = asked.notificationArns
  parameters : after.parameters = asked.parameters
  resourceTypes : after.resourceTypes = asked.resourceTypes
  stackPolicyUrl : after.stackPolicyUrl = asked.stackPolicyUrl
  status : after.status = .succeeded

namespace Memory
variable {memory : Memory} {name : String} {stack asked after : Details}

/-- What a stack keeps and what it takes leave nothing open. -/
theorem eq_modified_iff : after = modified stack asked ↔ KeepsCreation stack after ∧ TakesShape asked after := by
  constructor
  · rintro rfl
    exact ⟨⟨rfl,rfl,rfl,rfl,rfl,rfl,rfl,rfl⟩,⟨rfl,rfl,rfl,rfl,rfl,rfl,rfl⟩⟩
  · rintro ⟨kept,taken⟩
    obtain ⟨name,capabilities,rollback,description,arns,policy,outputs,parameters,types,id,url,status,tags,template,
      minutes⟩ := after
    simp only [modified,Details.mk.injEq]
    exact ⟨kept.name,taken.capabilities,kept.disableRollback,kept.description,taken.notificationArns,kept.onFailure,
      kept.outputs,taken.parameters,taken.resourceTypes,kept.id,taken.stackPolicyUrl,taken.status,kept.tags,
      taken.templateUrl,kept.timeoutInMinutes⟩

theorem modify_found (found : memory.get? name = some stack) (asked : Details) :
    memory.modify name asked = (.ok (),memory.insert name (modified stack asked)) := by
  rw [modify,found]

theorem modify_missing (missing : memory.get? name = none) (asked : Details) :
    memory.modify name asked = (.error .doesNotExist,memory) := by
  rw [modify,missing]
  exact congrArg (fun failure => (Except.error failure,memory)) (unknown_eq name rfl)

theorem describe_found (found : memory.get? name = some stack) : memory.describe name = .ok stack := by
  rw [describe,found]

/-- The settings of a creation are not looked at. -/
theorem modify_withoutCreation (memory : Memory) (name : String) (asked : Details) :
    memory.modify name asked.withoutCreation = memory.modify name asked := by
  cases found : memory.get? name with
  | none => rw [modify_missing found,modify_missing found]
  | some stack =>
    rw [modify_found found,modify_found found]
    rfl

end Memory

/-! ### What updates leave alone -/

/-- An update has nothing of the settings of a creation, whether it is told to the remote
    service or done in memory. -/
structure LeavesCreation (name : String) (details : Details) : Prop where
  /-- It is written as a creation without them. -/
  written : Arguments.update name details = Arguments.create name details.withoutCreation
  /-- After stack and template comes what the details set, but for them. -/
  told : ∃ told : List (String × List String),
    Arguments.update name details = Arguments.subject name details ++ told.flatMap (fun setting => setting.1 :: setting.2) ∧
      ∀ flag values, (flag,values) ∈ told ↔ Arguments.Sets details flag values ∧ flag ∉ Arguments.creationFlags
  /-- Over every executable they make no difference. -/
  run : ∀ {σ : Type} (account : Account) (execute : List String → σ → Run × σ) (state : σ),
    (CommandLine.backend account execute).perform (.modify name details) state =
      (CommandLine.backend account execute).perform (.modify name details.withoutCreation) state
  /-- In memory they make none either. -/
  same : ∀ memory : Memory, memory.modify name details = memory.modify name details.withoutCreation
  stored : ∀ (memory : Memory) (stack : Details), memory.get? name = some stack →
    (memory.modify name details).1 = .ok () ∧ ∃ changed, (memory.modify name details).2.describe name = .ok changed ∧
      (memory.modify name details).2.get? name = some changed ∧ KeepsCreation stack changed ∧ TakesShape details changed
  missing : ∀ memory : Memory, memory.get? name = none → memory.modify name details = (.error .doesNotExist,memory)
  others : ∀ (memory : Memory) (other : String), other ≠ name →
    (memory.modify name details).2.get? other = memory.get? other

theorem updates_leave_creation (name : String) (details : Details) : LeavesCreation name details where
  written := Arguments.update_eq_create name details
  told := by
    refine ⟨Arguments.chosen Arguments.settings details.withoutCreation,?_,fun flag values => ?_⟩
    · rw [Arguments.update_eq_create,Arguments.create_eq,Arguments.written_eq]
      rfl
    · rw [Arguments.mem_chosen,Arguments.sets_withoutCreation]
  run account execute state := by
    have sent : CommandLine.arguments account (.modify name details) =
        CommandLine.arguments account (.modify name details.withoutCreation) := by
      simp only [CommandLine.arguments,CommandLine.command,Arguments.update_eq_create]
      rfl
    simp only [CommandLine.backend,sent]
    rfl
  same memory := (memory.modify_withoutCreation name details).symm
  stored memory stack found := by
    have kept : (memory.modify name details).2.get? name = some (Memory.modified stack details) := by
      rw [Memory.modify_found found]
      simp
    obtain ⟨keeps,takes⟩ := Memory.eq_modified_iff.mp (rfl : Memory.modified stack details = _)
    exact ⟨by rw [Memory.modify_found found],_,Memory.describe_found kept,kept,keeps,takes⟩
  missing memory missing := Memory.modify_missing missing details
  others memory other differ := memory.perform_frame (.modify name details) differ

/-- Details with a template and every setting of a creation. -/
def overdressed : Details :=
  { Details.blank with
    templateUrl := "https://templates/large.json"
    disableRollback := true
    onFailure := some .delete
    tags := StringMap.empty.insert "Owner" "nobody"
    timeoutInMinutes := some 5 }

/-- A stack with tags is modified, next to another one. -/
theorem updates_leave_creation_overdressed :
    let tags := StringMap.empty.insert "Owner" "Cloud Foundry"
    let memory : Memory := (StringMap.empty.insert "cf-i" { Details.blank with tags := tags }).insert "cf-j" Details.blank
    Arguments.update "cf-i" overdressed = ["--stack-name","cf-i","--template-url","https://templates/large.json"] ∧
      (∃ changed, (memory.modify "cf-i" overdressed).2.describe "cf-i" = .ok changed ∧ changed.tags = tags ∧
        changed.timeoutInMinutes = none ∧ changed.templateUrl = "https://templates/large.json") ∧
      (memory.modify "cf-i" overdressed).2.get? "cf-j" = some Details.blank := by
  intro tags memory
  have leaves := updates_leave_creation "cf-i" overdressed
  have found : memory.get? "cf-i" = some { Details.blank with tags := tags } := by simp [memory]
  have other : memory.get? "cf-j" = some Details.blank := by simp [memory]
  obtain ⟨-,changed,described,-,keeps,takes⟩ := leaves.stored memory _ found
  refine ⟨leaves.written.trans (by decide),⟨changed,described,keeps.tags,keeps.timeoutInMinutes,takes.templateUrl⟩,?_⟩
  rw [leaves.others memory "cf-j" (by decide),other]

end StackBroker.Stack
