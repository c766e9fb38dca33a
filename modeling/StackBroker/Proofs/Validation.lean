import Mathlib
import StackBroker.Proofs.Calls

/-!
What valid settings are, and what they keep out. Settings are valid exactly if every
required text is there and every configured failure policy is one (`validate_eq_ok`,
level by level). Over valid settings whatever stack is asked for has a prefix, a
template and the failure policy that was configured for its plan, so that no policy is
ever dropped for being unknown (`validated_calls`).
-/
namespace StackBroker

/-! ### The case of letters -/

/-- Two texts are the same but for the case of ASCII letters. -/
def SameButCase (first second : String) : Prop :=
  first.toList.map Char.toLower = second.toList.map Char.toLower

instance (first second : String) : Decidable (SameButCase first second) := inferInstanceAs (Decidable (_ = _))

/-- Texts are the same but for case exactly if they are the same in capitals. -/
theorem sameButCase_iff_toUpper {first second : String} :
    SameButCase first second ↔ first.toList.map Char.toUpper = second.toList.map Char.toUpper := by
  constructor
  · intro same
    simpa [Function.comp_def,Char.toUpper_toLower_eq_toUpper] using congrArg (List.map Char.toUpper) same
  · intro same
    have lowered := congrArg (List.map Char.toLower) same
    simpa [SameButCase,Function.comp_def,Char.toLower_toUpper_eq_toLower] using lowered

/-! ### Failure policies -/

namespace FailurePolicy

theorem token_in_capitals (policy : FailurePolicy) :
    policy.token.toList.map Char.toUpper = policy.token.toList := by
  cases policy <;> decide

theorem ofToken?_eq_some_iff {raw : String} {policy : FailurePolicy} :
    ofToken? raw = some policy ↔ SameButCase raw policy.token := by
  rw [sameButCase_iff_toUpper,token_in_capitals,ofToken?]
  constructor
  · intro found
    simpa using List.find?_some found
  · intro same
    rw [same]
    cases policy <;> decide

end FailurePolicy

/-- What a configured text says about the failure policy: nothing if there is no text
    or an empty one, and else the policy of that token. -/
inductive Configures : Option String → Option FailurePolicy → Prop where
  | absent : Configures none none
  | blank : Configures (some "") none
  | named {raw : String} {policy : FailurePolicy} (same : SameButCase raw policy.token) :
    Configures (some raw) (some policy)

namespace Configures
variable {configured : Option String}

theorem none_iff : Configures configured none ↔ configured = none ∨ configured = some "" := by
  constructor
  · intro configures
    cases configures with
    | absent => exact .inl rfl
    | blank => exact .inr rfl
  · rintro (rfl | rfl)
    · exact .absent
    · exact .blank

theorem some_iff {policy : FailurePolicy} :
    Configures configured (some policy) ↔ ∃ raw, configured = some raw ∧ SameButCase raw policy.token := by
  constructor
  · intro configures
    cases configures with
    | named same => exact ⟨_,rfl,same⟩
  · rintro ⟨raw,rfl,same⟩
    exact .named same

end Configures

namespace StackProperties

theorem failurePolicy_eq_ok {properties : StackProperties} {policy : Option FailurePolicy} :
    properties.failurePolicy = .ok policy ↔ Configures properties.onFailure policy := by
  unfold failurePolicy
  cases properties.onFailure with
  | none =>
    constructor
    · rintro ⟨⟩
      exact .absent
    · intro configures
      cases configures
      rfl
  | some raw =>
    by_cases empty : raw = ""
    · subst empty
      constructor
      · rintro ⟨⟩
        exact .blank
      · intro configures
        cases configures with
        | blank => rfl
        | @named _ policy same => cases policy <;> exact absurd same (by decide)
    · have filled : raw.isEmpty = false := by simpa using empty
      constructor
      · intro known
        cases read : FailurePolicy.ofToken? raw with
        | none => simp [filled,read] at known
        | some found =>
          obtain rfl : some found = policy := by simpa [filled,read] using known
          exact .named (FailurePolicy.ofToken?_eq_some_iff.mp read)
      · intro configures
        cases configures with
        | blank => exact absurd rfl empty
        | named same => simp [filled,FailurePolicy.ofToken?_eq_some_iff.mpr same]

end StackProperties

/-! ### Valid settings -/

namespace Invalid

theorem requireText_eq_ok {field : RequiredField} {owner : Owner} {text : String} :
    requireText field owner text = .ok () ↔ text ≠ "" := by
  unfold requireText
  by_cases empty : text = "" <;> simp [empty]

theorem inPart_eq_ok {part : ConfigurationPart} {check : Except Invalid Unit} :
    inPart part check = .ok () ↔ check = .ok () := by
  cases check with
  | error fault => exact ⟨nofun,nofun⟩
  | ok _ => exact ⟨fun _ => rfl,fun _ => rfl⟩

/-- One check after another. -/
theorem andThen_eq_ok {first next : Except Invalid Unit} :
    (first >>= fun _ => next) = .ok () ↔ first = .ok () ∧ next = .ok () := by
  cases first <;> simp [Bind.bind,Except.bind]

theorem forM_eq_ok {α : Type} {check : α → Except Invalid Unit} {items : List α} :
    items.forM check = .ok () ↔ ∀ item ∈ items, check item = .ok () := by
  induction items with
  | nil => simp [Pure.pure,Except.pure]
  | cons first rest ih =>
    change (check first >>= fun _ => rest.forM check) = .ok () ↔ _
    rw [andThen_eq_ok,ih]
    simp

end Invalid

open Invalid

theorem StackProperties.validate_eq_ok {properties : StackProperties} :
    properties.validate = .ok () ↔ (∃ policy, Configures properties.onFailure policy) ∧ properties.templateUrl ≠ "" := by
  simp only [StackProperties.validate,← StackProperties.failurePolicy_eq_ok]
  cases properties.failurePolicy <;> simp [Bind.bind,Except.bind,requireText_eq_ok]

theorem Plan.validate_eq_ok {plan : Plan} :
    plan.validate = .ok () ↔ plan.id ≠ "" ∧ plan.name ≠ "" ∧ plan.description ≠ "" ∧
      plan.properties.validate = .ok () := by
  simp only [Plan.validate,andThen_eq_ok,requireText_eq_ok,inPart_eq_ok]

theorem Service.validate_eq_ok {service : Service} :
    service.validate = .ok () ↔ service.id ≠ "" ∧ service.name ≠ "" ∧ service.description ≠ "" ∧
      ∀ plan ∈ service.plans, plan.validate = .ok () := by
  simp only [Service.validate,andThen_eq_ok,requireText_eq_ok,inPart_eq_ok,forM_eq_ok]

theorem Catalog.validate_eq_ok {catalog : Catalog} :
    catalog.validate = .ok () ↔ ∀ service ∈ catalog.services, service.validate = .ok () := by
  simp only [Catalog.validate,forM_eq_ok,inPart_eq_ok]

theorem BrokerSettings.validate_eq_ok {settings : BrokerSettings} :
    settings.validate = .ok () ↔ settings.region ≠ "" ∧ settings.stackPrefix ≠ "" ∧
      settings.catalog.validate = .ok () := by
  simp only [BrokerSettings.validate,andThen_eq_ok,requireText_eq_ok,inPart_eq_ok]

end StackBroker

namespace StackBroker.Broker
open StackBroker.Stack (Call Details)

/-! ### What is asked for over valid settings -/

/-- What is asked for is made from a plan: its settings, its template, which has a
    location, and its failure policy, which is known. -/
structure MadeFrom (plan : Plan) (asked : Details) : Prop where
  capabilities : asked.capabilities = plan.properties.capabilities
  disableRollback : asked.disableRollback = plan.properties.disableRollback
  notificationArns : asked.notificationArns = plan.properties.notificationArns
  resourceTypes : asked.resourceTypes = plan.properties.resourceTypes
  stackPolicyUrl : asked.stackPolicyUrl = plan.properties.stackPolicyUrl
  timeoutInMinutes : asked.timeoutInMinutes = plan.properties.timeoutInMinutes
  templateUrl : asked.templateUrl = plan.properties.templateUrl
  located : asked.templateUrl ≠ ""
  known : plan.properties.failurePolicy = .ok asked.onFailure
  noPolicy : asked.onFailure = none ↔ plan.properties.onFailure = none ∨ plan.properties.onFailure = some ""
  policy : ∀ policy, asked.onFailure = some policy ↔
    ∃ raw, plan.properties.onFailure = some raw ∧ SameButCase raw policy.token

theorem policyOf_eq {properties : StackProperties} {policy : Option FailurePolicy}
    (known : properties.failurePolicy = .ok policy) : policyOf properties = policy := by
  rw [policyOf,known]

/-- What a plan with valid properties is asked for with is made from the plan. -/
theorem madeFrom_of_valid {plan : Plan} {asked : Details} {parameters : StringMap String}
    (valid : plan.properties.validate = .ok ())
    (built : { asked with tags := .empty } = planDetails plan parameters) : MadeFrom plan asked := by
  obtain ⟨⟨policy,configured⟩,located⟩ := StackProperties.validate_eq_ok.mp valid
  have known := StackProperties.failurePolicy_eq_ok.mpr configured
  have onFailure : asked.onFailure = policy := (congrArg Details.onFailure built).trans (policyOf_eq known)
  have templateUrl : asked.templateUrl = plan.properties.templateUrl := congrArg Details.templateUrl built
  have configures (other : Option FailurePolicy) : asked.onFailure = other ↔ Configures plan.properties.onFailure other := by
    rw [← StackProperties.failurePolicy_eq_ok,known,onFailure,Except.ok.injEq]
  exact {
    capabilities := congrArg Details.capabilities built
    disableRollback := congrArg Details.disableRollback built
    notificationArns := congrArg Details.notificationArns built
    resourceTypes := congrArg Details.resourceTypes built
    stackPolicyUrl := congrArg Details.stackPolicyUrl built
    timeoutInMinutes := congrArg Details.timeoutInMinutes built
    templateUrl := templateUrl
    located := templateUrl ▸ located
    known := onFailure ▸ known
    noPolicy := (configures none).trans Configures.none_iff
    policy := fun other => (configures (some other)).trans Configures.some_iff }

/-- Over valid settings every call that makes or changes a stack has the name of the
    instance after a prefix, and asks for the first plan with the requested id, with a
    template and with the failure policy that is configured for the plan. -/
theorem validated_calls {settings : BrokerSettings} (valid : settings.validate = .ok ()) (now : Instant)
    (request : Request) {call : Call} (made : (handle settings now request).request? = some call)
    {name : String} {asked : Details} (asks : call = .create name asked ∨ call = .modify name asked) :
    settings.stackPrefix ≠ "" ∧ name = settings.stackPrefix ++ "-" ++ request.instanceId ∧
      ∃ planId plan, request.planId? = some planId ∧ FirstPlan settings.catalog planId plan ∧ MadeFrom plan asked := by
  obtain ⟨-,prefixed,catalog⟩ := BrokerSettings.validate_eq_ok.mp valid
  obtain ⟨named,planId,plan,parameters,chosen,first,-,built⟩ := calls_built (request?_handle.mp made) asks
  obtain ⟨service,offered,mine⟩ := first.mem
  have validService := Catalog.validate_eq_ok.mp catalog service offered
  obtain ⟨-,-,-,plans⟩ := Service.validate_eq_ok.mp validService
  obtain ⟨-,-,-,properties⟩ := Plan.validate_eq_ok.mp (plans plan mine)
  exact ⟨prefixed,named,planId,plan,chosen,first,madeFrom_of_valid properties built⟩

/-- Settings with one plan, whose failure policy is written in letters of either case. -/
def carefulSettings : BrokerSettings :=
  let properties := { StackProperties.blank with
    onFailure := some "do_Nothing"
    templateUrl := "https://templates/small.json" }
  let plan : Plan := ⟨"small","small","a small one",none,false,properties⟩
  let service := { Service.blank with id := "db", name := "db", description := "a database", plans := [plan] }
  ⟨"eu-west-1","cf",false,false,⟨[service]⟩⟩

theorem validated_calls_doNothing :
    carefulSettings.validate = .ok () ∧ ∃ name asked,
      (handle carefulSettings .epoch (.provision "i" ⟨"db","small","org","space",none⟩ true)).request? =
        some (.create name asked) ∧
      name = "cf" ++ "-" ++ "i" ∧ asked.onFailure = some .doNothing := by
  have valid : carefulSettings.validate = .ok () := rfl
  obtain ⟨asked,allowed⟩ : ∃ asked,
      provisionRequest carefulSettings .epoch ⟨"db","small","org","space",none⟩ true = .ok asked := ⟨_,rfl⟩
  have made : (handle carefulSettings .epoch (.provision "i" ⟨"db","small","org","space",none⟩ true)).request? =
      some (.create (stackName carefulSettings "i") asked) := request?_handle.mpr (.provision allowed)
  obtain ⟨-,named,planId,plan,chosen,first,built⟩ := validated_calls valid .epoch _ made (.inl rfl)
  obtain rfl : "small" = planId := Option.some.inj chosen
  have found := Catalog.findPlan?_eq_some_iff.mpr first
  have configured : plan.properties.onFailure = some "do_Nothing" := by
    rw [← Option.some.inj found]
  exact ⟨valid,_,asked,made,named,(built.policy .doNothing).mpr ⟨_,configured,by decide⟩⟩

end StackBroker.Broker
