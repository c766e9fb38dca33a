import StackBroker.Cuts
import StackBroker.Proofs.Echo

/-!
What the arguments of a creation tell. After the name and the template come the settings, each
as its flag and its values, or not at all (`create_eq`). Flags come in one order, and a setting
either has a fixed number of values or values that are no flags, so that it is known where it
ends (`values_of_written`). Thus equal arguments come from equal settings, and settings are the
details but for what counts as unset (`sameSettings_iff`, `create_eq_iff`). What is written of
settings is exactly what details set (`mem_chosen`), of which nothing is empty
(`Sets.not_vacant`). `creation_told` sums this up.
-/
namespace StackBroker.Stack.Arguments

/-! ### Settings and their flags -/

/-- A list as a setting, which is not set if the list is empty. -/
def filled (values : List String) : Option (List String) := if values.isEmpty then none else some values

def entered (map : StringMap String) : Option (StringMap String) := if map.isEmpty then none else some map

/-- A setting of a creation: its flag, and the values that details set it to. -/
structure Setting where
  flag : String
  values : Details → Option (List String)

/-- The settings of a creation in the order of their flags. -/
def settings : List Setting := [
  ⟨"--capabilities",fun details => filled details.capabilities⟩,
  ⟨"--disable-rollback",fun details => if details.disableRollback then some [] else none⟩,
  ⟨"--notification-arns",fun details => filled details.notificationArns⟩,
  ⟨"--on-failure",fun details => details.onFailure.map fun policy => [policy.token]⟩,
  ⟨"--parameters",fun details => (entered details.parameters).map fun map => [parametersText map]⟩,
  ⟨"--resource-types",fun details => filled details.resourceTypes⟩,
  ⟨"--stack-policy-url",fun details => (details.stackPolicyUrl.filter (· ≠ "")).map fun url => [url]⟩,
  ⟨"--tags",fun details => (entered details.tags).map fun map => [tagsText map]⟩,
  ⟨"--timeout-in-minutes",fun details =>
    (details.timeoutInMinutes.filter (· ≠ 0)).map fun minutes => [toString minutes.toNat]⟩]

/-- What is written of a setting: nothing, or its flag and its values. -/
def emitted (flag : String) : Option (List String) → List String
  | none => []
  | some values => flag :: values

/-- What is written of some settings. -/
def written (settings : List Setting) (details : Details) : List String :=
  settings.flatMap fun setting => emitted setting.flag (setting.values details)

theorem emitted_filled (flag : String) (values : List String) : emitted flag (filled values) = listed flag values := by
  unfold filled listed
  split <;> rfl

theorem emitted_entered (flag : String) (text : StringMap String → String) (map : StringMap String) :
    emitted flag ((entered map).map fun map => [text map]) = if map.isEmpty then [] else [flag,text map] := by
  unfold entered
  split <;> rfl

theorem emitted_policyUrl (details : Details) :
    emitted "--stack-policy-url" ((details.stackPolicyUrl.filter (· ≠ "")).map fun url => [url]) = policyUrl details := by
  unfold policyUrl
  cases details.stackPolicyUrl with
  | none => rfl
  | some url => by_cases empty : url = "" <;> simp [emitted,Option.filter,empty]

theorem emitted_timeout (details : Details) : emitted "--timeout-in-minutes"
    ((details.timeoutInMinutes.filter (· ≠ 0)).map fun minutes => [toString minutes.toNat]) = timeout details := by
  unfold timeout
  cases details.timeoutInMinutes with
  | none => rfl
  | some minutes => by_cases zero : minutes = 0 <;> simp [emitted,Option.filter,zero]

theorem create_eq (name : String) (details : Details) :
    create name details = subject name details ++ written settings details := by
  have switch : emitted "--disable-rollback" (if details.disableRollback then some [] else none) = rollback details := by
    unfold rollback
    split <;> rfl
  have policy : emitted "--on-failure" (details.onFailure.map fun policy => [policy.token]) = failurePolicy details := by
    unfold failurePolicy
    cases details.onFailure <;> rfl
  simp only [written,settings,List.flatMap_cons,List.flatMap_nil,emitted_filled,emitted_entered,emitted_policyUrl,
    emitted_timeout,switch,policy,create,List.append_assoc,List.append_nil]
  rfl

/-- What is written of settings hangs on nothing but their values. -/
theorem written_congr {parts : List Setting} {one other : Details}
    (same : ∀ part ∈ parts, part.values one = part.values other) : written parts one = written parts other := by
  rw [written,written,List.flatMap_def,List.flatMap_def,List.map_congr_left fun part inside => by rw [same part inside]]

/-! ### Where settings end -/

/-- Of two choices of values one can be told from the other if a flag or nothing follows: both
    are as long, or neither has a flag in it. -/
def Aligned : Option (List String) → Option (List String) → Prop
  | some one,some other => one.length = other.length ∨ ∀ value ∈ one ++ other, value ∉ flags
  | _,_ => True

variable {parts : List Setting} {one other details : Details}

theorem head?_written : ∀ first ∈ (written parts details).head?, first ∈ parts.map Setting.flag := by
  induction parts with
  | nil => exact fun _ none => by cases none
  | cons part rest ih =>
    intro first found
    rw [written,List.flatMap_cons] at found
    cases chosen : part.values details with
    | none =>
      rw [chosen] at found
      exact .tail _ (ih first found)
    | some values =>
      rw [chosen] at found
      cases found
      exact .head _

/-- Values that are no flags end where the next setting begins. -/
theorem cuts_flags {values : List String} (free : ∀ value ∈ values, value ∉ flags)
    (known : ∀ part ∈ parts, part.flag ∈ flags) (details : Details) :
    Cuts (fun value => decide (value ∉ flags)) (values ++ written parts details) values (written parts details) := by
  refine ⟨rfl,fun value member => decide_eq_true (free value member),fun first found => ?_⟩
  obtain ⟨part,inside,same⟩ := List.mem_map.mp (head?_written first found)
  have flag : first ∈ flags := same ▸ known part inside
  simp [flag]

/-- The values of settings are known from what is written of them. -/
theorem values_of_written (distinct : (parts.map Setting.flag).Nodup) (known : ∀ part ∈ parts, part.flag ∈ flags)
    (aligned : ∀ part ∈ parts, Aligned (part.values one) (part.values other)) (same : written parts one = written parts other) :
    ∀ part ∈ parts, part.values one = part.values other := by
  induction parts with
  | nil => exact List.forall_mem_nil _
  | cons part rest ih =>
    rw [List.map_cons,List.nodup_cons] at distinct
    obtain ⟨new,distinct⟩ := distinct
    obtain ⟨-,known⟩ := List.forall_mem_cons.mp known
    obtain ⟨here,aligned⟩ := List.forall_mem_cons.mp aligned
    have split (details : Details) :
        written (part :: rest) details = emitted part.flag (part.values details) ++ written rest details := List.flatMap_cons
    rw [split,split] at same
    -- What a setting that is not set is followed by does not begin with its flag.
    have absent (details : Details) : part.flag ∉ (written rest details).head? := fun found => new (head?_written _ found)
    suffices equal : part.values one = part.values other ∧ written rest one = written rest other from
      List.forall_mem_cons.mpr ⟨equal.1,ih distinct known aligned equal.2⟩
    cases first : part.values one with
    | none =>
      cases second : part.values other with
      | none =>
        rw [first,second] at same
        exact ⟨rfl,same⟩
      | some values =>
        rw [first,second] at same
        exact absurd (congrArg List.head? same) (absent one)
    | some values =>
      cases second : part.values other with
      | none =>
        rw [first,second] at same
        exact absurd (congrArg List.head? same).symm (absent other)
      | some otherValues =>
        rw [first,second] at same here
        have inner : values ++ written rest one = otherValues ++ written rest other := (List.cons.inj same).2
        rcases here with long | free
        · obtain ⟨rfl,later⟩ := List.append_inj inner long
          exact ⟨rfl,later⟩
        · have cuts := cuts_flags (fun value member => free value (List.mem_append_left _ member)) known one
          rw [inner] at cuts
          obtain ⟨rfl,later⟩ :=
            cuts.unique (cuts_flags (fun value member => free value (List.mem_append_right _ member)) known other)
          exact ⟨rfl,later⟩

/-! ### Settings and details -/

/-- The lists of a stack hold none of the flags. -/
def Flagless (details : Details) : Prop :=
  ∀ value ∈ details.capabilities ++ details.notificationArns ++ details.resourceTypes, value ∉ flags

/-- Details that a creation does not tell apart: an empty address of a policy counts as none,
    and so does a timeout of zero. -/
structure SameCreation (one other : Details) : Prop where
  templateUrl : one.templateUrl = other.templateUrl
  capabilities : one.capabilities = other.capabilities
  disableRollback : one.disableRollback = other.disableRollback
  notificationArns : one.notificationArns = other.notificationArns
  onFailure : one.onFailure = other.onFailure
  parameters : one.parameters = other.parameters
  resourceTypes : one.resourceTypes = other.resourceTypes
  stackPolicyUrl : one.stackPolicyUrl.filter (· ≠ "") = other.stackPolicyUrl.filter (· ≠ "")
  tags : one.tags = other.tags
  timeoutInMinutes : one.timeoutInMinutes.filter (· ≠ 0) = other.timeoutInMinutes.filter (· ≠ 0)

theorem aligned_filled {values others : List String} (free : ∀ value ∈ values, value ∉ flags)
    (otherFree : ∀ value ∈ others, value ∉ flags) : Aligned (filled values) (filled others) := by
  unfold filled
  split
  · exact trivial
  · split
    · exact trivial
    · exact .inr fun value member => (List.mem_append.mp member).elim (free value) (otherFree value)

theorem aligned_single {α : Type} (text : α → String) (one other : Option α) :
    Aligned (one.map fun value => [text value]) (other.map fun value => [text value]) := by
  cases one with
  | none => exact trivial
  | some _ =>
    cases other with
    | none => exact trivial
    | some _ => exact .inl rfl

theorem aligned_settings (free : Flagless one) (otherFree : Flagless other) :
    ∀ part ∈ settings, Aligned (part.values one) (part.values other) := by
  simp only [Flagless,List.forall_mem_append] at free otherFree
  obtain ⟨⟨capabilities,arns⟩,types⟩ := free
  obtain ⟨⟨otherCapabilities,otherArns⟩,otherTypes⟩ := otherFree
  have switch : Aligned (if one.disableRollback then some [] else none) (if other.disableRollback then some [] else none) := by
    cases one.disableRollback <;> cases other.disableRollback <;> first | exact trivial | exact .inl rfl
  simp only [settings,List.forall_mem_cons]
  exact ⟨aligned_filled capabilities otherCapabilities,switch,aligned_filled arns otherArns,aligned_single _ _ _,
    aligned_single _ _ _,aligned_filled types otherTypes,aligned_single _ _ _,aligned_single _ _ _,aligned_single _ _ _,
    List.forall_mem_nil _⟩

theorem filled_injective {values others : List String} (same : filled values = filled others) : values = others := by
  cases values <;> cases others <;> simp_all [filled]

theorem entered_injective {map other : StringMap String} (same : entered map = entered other) : map = other := by
  unfold entered at same
  split at same
  · rename_i empty
    split at same
    · rename_i otherEmpty
      rw [StringMap.isEmpty_iff.mp empty,StringMap.isEmpty_iff.mp otherEmpty]
    · cases same
  · split at same
    · cases same
    · exact Option.some.inj same

theorem single_injective {α : Type} {text : α → String} (apart : ∀ one other, text one = text other → one = other)
    {one other : Option α} (same : (one.map fun value => [text value]) = other.map fun value => [text value]) :
    one = other := by
  refine Option.map_inj_right (fun first second equal => apart first second ?_) |>.mp same
  exact (List.cons.inj equal).1

theorem decimal_injective {one other : Nat} (same : toString one = toString other) : one = other := by
  have digits : Nat.toDigits 10 one = Nat.toDigits 10 other := by
    rw [← Nat.toList_repr,← Nat.toList_repr]
    exact congrArg String.toList same
  calc
    one = Nat.ofDigitChars 10 (Nat.toDigits 10 one) 0 := Nat.ofDigitChars_ten_toDigits.symm
    _ = Nat.ofDigitChars 10 (Nat.toDigits 10 other) 0 := by rw [digits]
    _ = other := Nat.ofDigitChars_ten_toDigits

/-- Settings have the same values exactly if they come from details that a creation does not
    tell apart, the template aside. -/
theorem sameSettings_iff : (∀ part ∈ settings, part.values one = part.values other) ∧ one.templateUrl = other.templateUrl ↔
    SameCreation one other := by
  simp only [settings,List.forall_mem_cons]
  constructor
  · rintro ⟨⟨capabilities,rollback,arns,policy,parameters,types,url,tags,minutes,-⟩,template⟩
    refine ⟨template,filled_injective capabilities,?_,filled_injective arns,?_,?_,filled_injective types,?_,?_,?_⟩
    · revert rollback
      cases one.disableRollback <;> cases other.disableRollback <;> simp
    · exact single_injective (fun first second => by cases first <;> cases second <;> decide) policy
    · exact entered_injective (single_injective parameters_tells.injective parameters)
    · exact single_injective (fun _ _ => id) url
    · exact entered_injective (single_injective tags_tells.injective tags)
    · exact single_injective (fun _ _ equal => UInt32.toNat_inj.mp (decimal_injective equal)) minutes
  · rintro ⟨template,capabilities,rollback,arns,policy,parameters,types,url,tags,minutes⟩
    rw [capabilities,rollback,arns,policy,parameters,types,url,tags,minutes]
    simp [template]

/-! ### Creations -/

theorem flags_settings : flags.drop 2 = settings.map Setting.flag := rfl

theorem known_settings : ∀ part ∈ settings, part.flag ∈ flags := by
  intro part inside
  have flag := List.mem_map_of_mem (f := Setting.flag) inside
  rw [← flags_settings] at flag
  exact List.mem_of_mem_drop flag

theorem create_eq_iff {name otherName : String} (free : Flagless one) (otherFree : Flagless other) :
    create name one = create otherName other ↔ name = otherName ∧ SameCreation one other := by
  rw [create_eq,create_eq,← sameSettings_iff]
  constructor
  · intro same
    obtain ⟨subjects,settled⟩ := List.append_inj same rfl
    simp only [subject,List.cons.injEq,true_and,and_true] at subjects
    have distinct : (settings.map Setting.flag).Nodup := by decide
    exact ⟨subjects.1,values_of_written distinct known_settings (aligned_settings free otherFree) settled,subjects.2⟩
  · rintro ⟨rfl,same,template⟩
    rw [subject,subject,template,written_congr same]

/-! ### What is set -/

/-- What details set, each setting with its flag and its values. -/
inductive Sets (details : Details) : String → List String → Prop where
  | capabilities (filled : details.capabilities ≠ []) : Sets details "--capabilities" details.capabilities
  | rollback (disabled : details.disableRollback = true) : Sets details "--disable-rollback" []
  | notifications (filled : details.notificationArns ≠ []) : Sets details "--notification-arns" details.notificationArns
  | failurePolicy {policy : FailurePolicy} (set : details.onFailure = some policy) :
    Sets details "--on-failure" [policy.token]
  | parameters (filled : details.parameters ≠ .empty) : Sets details "--parameters" [parametersText details.parameters]
  | resourceTypes (filled : details.resourceTypes ≠ []) : Sets details "--resource-types" details.resourceTypes
  | policyUrl {url : String} (set : details.stackPolicyUrl = some url) (filled : url ≠ "") :
    Sets details "--stack-policy-url" [url]
  | tags (filled : details.tags ≠ .empty) : Sets details "--tags" [tagsText details.tags]
  | timeout {minutes : UInt32} (set : details.timeoutInMinutes = some minutes) (positive : minutes ≠ 0) :
    Sets details "--timeout-in-minutes" [toString minutes.toNat]

theorem filled_eq_some {values chosen : List String} : filled values = some chosen ↔ values ≠ [] ∧ values = chosen := by
  cases values <;> simp [filled]

theorem entered_eq_some {map chosen : StringMap String} : entered map = some chosen ↔ map ≠ .empty ∧ map = chosen := by
  rw [ne_eq,← StringMap.isEmpty_iff]
  unfold entered
  cases map.isEmpty <;> simp

theorem sets_iff {flag : String} {values : List String} :
    Sets details flag values ↔ ∃ part ∈ settings, part.flag = flag ∧ part.values details = some values := by
  simp only [settings,List.exists_mem_cons_iff,List.not_mem_nil,false_and,exists_false,or_false,filled_eq_some,
    Option.map_eq_some_iff,entered_eq_some,Option.filter_eq_some_iff,Option.ite_none_right_eq_some,Option.some_inj,
    decide_eq_true_eq]
  constructor
  · rintro (filled | disabled | filled | set | filled | filled | ⟨set,filled⟩ | filled | ⟨set,positive⟩)
    all_goals simp_all
  · rintro (⟨rfl,filled,rfl⟩ | ⟨rfl,disabled,rfl⟩ | ⟨rfl,filled,rfl⟩ | ⟨rfl,policy,set,rfl⟩ |
      ⟨rfl,map,⟨filled,rfl⟩,rfl⟩ | ⟨rfl,filled,rfl⟩ | ⟨rfl,url,⟨set,filled⟩,rfl⟩ | ⟨rfl,map,⟨filled,rfl⟩,rfl⟩ |
      ⟨rfl,minutes,⟨set,positive⟩,rfl⟩)
    · exact .capabilities filled
    · exact .rollback disabled
    · exact .notifications filled
    · exact .failurePolicy set
    · exact .parameters filled
    · exact .resourceTypes filled
    · exact .policyUrl set filled
    · exact .tags filled
    · exact .timeout set positive

/-- The settings that are set, each with its flag and its values. -/
def chosen (parts : List Setting) (details : Details) : List (String × List String) :=
  parts.filterMap fun part => (part.values details).map (Prod.mk part.flag)

theorem written_eq : written parts details = (chosen parts details).flatMap fun setting => setting.1 :: setting.2 := by
  induction parts with
  | nil => rfl
  | cons part rest ih =>
    rw [written,List.flatMap_cons,chosen,List.filterMap_cons]
    cases part.values details with
    | none => exact ih
    | some values => exact congrArg (part.flag :: values ++ ·) ih

/-- No setting is told twice, and none out of turn. -/
theorem chosen_sublist : ((chosen parts details).map Prod.fst).Sublist (parts.map Setting.flag) := by
  induction parts with
  | nil => exact .slnil
  | cons part rest ih =>
    rw [chosen,List.filterMap_cons,List.map_cons]
    cases part.values details with
    | none => exact ih.cons _
    | some values => exact ih.cons_cons _

theorem mem_chosen {flag : String} {values : List String} :
    (flag,values) ∈ chosen settings details ↔ Sets details flag values := by
  rw [sets_iff,chosen,List.mem_filterMap]
  simp [and_comm]

/-- Settings that would set nothing. -/
def vacant : List (String × List String) := [
  ("--capabilities",[]),
  ("--notification-arns",[]),
  ("--parameters",["[]"]),
  ("--resource-types",[]),
  ("--stack-policy-url",[""]),
  ("--tags",["[]"]),
  ("--timeout-in-minutes",["0"])]

theorem Sets.not_vacant {flag : String} {values : List String} (set : Sets details flag values) :
    (flag,values) ∉ vacant := by
  cases set with
  | capabilities filled => simp [vacant,filled]
  | rollback disabled => decide
  | notifications filled => simp [vacant,filled]
  | failurePolicy set => simp [vacant]
  | parameters filled =>
    have nothing : parametersText .empty = "[]" := rfl
    have something : parametersText details.parameters ≠ "[]" := fun same =>
      filled (parameters_tells.injective _ _ (same.trans nothing.symm))
    simp [vacant,something]
  | resourceTypes filled => simp [vacant,filled]
  | policyUrl set filled => simp [vacant,filled]
  | tags filled =>
    have nothing : tagsText .empty = "[]" := rfl
    have something : tagsText details.tags ≠ "[]" := fun same =>
      filled (tags_tells.injective _ _ (same.trans nothing.symm))
    simp [vacant,something]
  | @timeout minutes set positive =>
    have zero : toString 0 = "0" := rfl
    have something : toString minutes.toNat ≠ "0" := fun same =>
      positive (UInt32.toNat_inj.mp (decimal_injective (same.trans zero.symm)))
    simpa [vacant] using something

/-! ### What creations tell -/

/-- What the arguments of creations tell: the stack and all its details, but not whether an
    empty address or a timeout of zero was given or none. Whatever the details, after stack and
    template comes what they set, each setting once and in its turn. -/
structure CreationTold : Prop where
  whole : ∀ {name otherName : String} {one other : Details}, Flagless one → Flagless other →
    (create name one = create otherName other ↔ name = otherName ∧ SameCreation one other)
  settled : ∀ (name : String) (details : Details), ∃ told : List (String × List String),
    create name details = subject name details ++ told.flatMap (fun setting => setting.1 :: setting.2) ∧
      (told.map Prod.fst).Sublist (flags.drop 2) ∧
      ∀ flag values, (flag,values) ∈ told ↔ Sets details flag values
  filled : ∀ {details : Details} {flag : String} {values : List String}, Sets details flag values → (flag,values) ∉ vacant

theorem creation_told : CreationTold where
  whole := create_eq_iff
  settled name details := by
    refine ⟨chosen settings details,?_,chosen_sublist,fun _ _ => mem_chosen⟩
    rw [create_eq,written_eq]
  filled := Sets.not_vacant

/-- Addresses that look like flags. -/
def flagLike : Details :=
  { Details.blank with templateUrl := "--tags", stackPolicyUrl := some "--tags", tags := ⟨[("--tags","[]")],by decide⟩ }

theorem creation_told_flagLike :
    create "--tags" flagLike ≠ create "--tags" { flagLike with stackPolicyUrl := some "--tag" } ∧
      create "--tags" flagLike = create "--tags" { flagLike with timeoutInMinutes := some 0 } ∧
      ("--stack-policy-url",["--tags"]) ∉ vacant := by
  have free {url : Option String} {minutes : Option UInt32} :
      Flagless { flagLike with stackPolicyUrl := url, timeoutInMinutes := minutes } := List.forall_mem_nil _
  have set : Sets flagLike "--stack-policy-url" ["--tags"] := .policyUrl rfl (by decide)
  refine ⟨fun same => ?_,(creation_told.whole free free).mpr ⟨rfl,?_⟩,creation_told.filled set⟩
  · obtain ⟨-,alike⟩ := (creation_told.whole free free).mp same
    exact absurd alike.stackPolicyUrl (by decide)
  · constructor <;> rfl

end StackBroker.Stack.Arguments
