import StackBroker.Proofs.Conditions
import StackBroker.Proofs.Validation

/-!
Which fault of some settings is told. The conditions of settings are listed in the order in
which they are visited, each with its fault: what is wrong, whose it is, and the parts of the
configuration on the way to it (`ServerSettings.conditions`). Validation tells the first that is
not met, level by level (`StackProperties.tells` to `ServerSettings.tells`). All of them are met
exactly by settings that are complete throughout (`ServerSettings.allMet_iff`), so that validation
is known from either side (`first_fault_told`).
-/
namespace StackBroker

/-! ### Conditions of settings -/

/-- A fault that lies in some parts of the configuration of a broker, from the outermost in. -/
def Invalid.under (parts : List ConfigurationPart) (cause : Invalid) : Invalid := parts.foldr .within cause

/-- What a service or a plan is called: its id, or its name if it has no id. -/
def called (id name : String) : String := if id = "" then name else id

/-- A text that must not be empty, in some parts of the configuration. -/
def filledText (parts : List ConfigurationPart) (field : RequiredField) (owner : Owner) (text : String) :
    Condition Invalid :=
  ⟨text ≠ "",.under parts (.empty field owner)⟩

def StackProperties.conditions (parts : List ConfigurationPart) (properties : StackProperties) :
    List (Condition Invalid) := [
  ⟨∃ policy, Configures properties.onFailure policy,.under parts (.unsupportedPolicy (properties.onFailure.getD ""))⟩,
  filledText parts .templateUrl .stackProperties properties.templateUrl]

/-- The texts of a plan, and then its stack properties. -/
def Plan.conditions (parts : List ConfigurationPart) (plan : Plan) : List (Condition Invalid) :=
  let owner := Owner.plan (called plan.id plan.name)
  filledText parts .id owner plan.id :: filledText parts .name owner plan.name ::
    filledText parts .description owner plan.description :: plan.properties.conditions (parts ++ [.stackProperties])

/-- The texts of a service, and then its plans. -/
def Service.conditions (parts : List ConfigurationPart) (service : Service) : List (Condition Invalid) :=
  let owner := Owner.service (called service.id service.name)
  filledText parts .id owner service.id :: filledText parts .name owner service.name ::
    filledText parts .description owner service.description ::
      service.plans.flatMap (Plan.conditions (parts ++ [.plans]))

def BrokerSettings.conditions (settings : BrokerSettings) : List (Condition Invalid) :=
  filledText [] .region .brokerConfiguration settings.region ::
    filledText [] .stackPrefix .brokerConfiguration settings.stackPrefix ::
      settings.catalog.services.flatMap (Service.conditions [.catalog,.services])

/-- The conditions of settings in the order in which they are visited. -/
def ServerSettings.conditions (settings : ServerSettings) : List (Condition SettingsFault) :=
  ⟨settings.logLevel ≠ "",.empty .logLevel⟩ ::
    ⟨∃ level : LogLevel, SameButCase settings.logLevel level.text,.unsupportedLogLevel settings.logLevel⟩ ::
      ⟨settings.username ≠ "",.empty .username⟩ :: ⟨settings.password ≠ "",.empty .password⟩ ::
        settings.broker.conditions.map (Condition.relay .broker)

/-! ### Faults on the way out -/

theorem mapError_bind {ε δ α β : Type} (first : Except ε α) (next : α → Except ε β) (tell : ε → δ) :
    (first >>= next).mapError tell = first.mapError tell >>= fun value => (next value).mapError tell := by
  cases first <;> rfl

theorem mapError_forM {ε δ α : Type} (items : List α) (each : α → Except ε Unit) (tell : ε → δ) :
    (items.forM each).mapError tell = items.forM fun item => (each item).mapError tell := by
  induction items with
  | nil => rfl
  | cons item rest ih =>
    have first : (item :: rest).forM each = each item >>= fun _ => rest.forM each := rfl
    rw [first,mapError_bind,ih]
    rfl

namespace Invalid

theorem mapError_inPart (parts : List ConfigurationPart) (part : ConfigurationPart) (check : Except Invalid Unit) :
    (inPart part check).mapError (under parts) = check.mapError (under (parts ++ [part])) := by
  cases check with
  | ok _ => rfl
  | error fault =>
    have nested : under parts (.within part fault) = under (parts ++ [part]) fault := by simp [under]
    exact congrArg Except.error nested

theorem mapError_under_nil (check : Except Invalid Unit) : check.mapError (under []) = check := by
  cases check <;> rfl

/-- The required text is what the condition says, whoever is named where there is no fault. -/
theorem tells_text (parts : List ConfigurationPart) {field : RequiredField} {owner named : Owner} {text : String}
    (same : text = "" → owner = named) :
    Tells [filledText parts field named text] ((requireText field owner text).mapError (under parts)) := by
  by_cases empty : text = ""
  · have fails : requireText field owner text = .error (.empty field owner) := by simp [requireText,empty]
    refine .single (fun met => absurd empty met) fun _ => ?_
    rw [fails,same empty]
    rfl
  · have passes : requireText field owner text = .ok () := requireText_eq_ok.mpr empty
    exact .single (fun _ => ⟨(),by rw [passes]; rfl⟩) fun unmet => absurd empty unmet

end Invalid

open Invalid

/-! ### Validation tells the first fault -/

theorem called_of_id {id name : String} (named : id ≠ "") : called id name = id := if_neg named

theorem called_of_name {id name : String} (missing : id = "") : called id name = name := if_pos missing

/-- The one configured policy that is refused is one that is unknown. -/
theorem StackProperties.failurePolicy_of_unknown {properties : StackProperties}
    (unknown : ¬ ∃ policy, Configures properties.onFailure policy) :
    properties.failurePolicy = .error (.unsupportedPolicy (properties.onFailure.getD "")) := by
  cases known : properties.failurePolicy with
  | ok policy => exact absurd ⟨policy,StackProperties.failurePolicy_eq_ok.mp known⟩ unknown
  | error fault =>
    unfold StackProperties.failurePolicy at known
    cases configured : properties.onFailure with
    | none => simp [configured] at known
    | some raw =>
      simp only [configured] at known
      split at known
      · cases known
      · split at known
        · cases known
        · exact known.symm

theorem StackProperties.tells (parts : List ConfigurationPart) (properties : StackProperties) :
    Tells (properties.conditions parts) (properties.validate.mapError (under parts)) := by
  rw [StackProperties.validate,mapError_bind]
  refine .cons (.single ?_ fun unknown => ?_) fun _ _ _ => tells_text parts fun _ => rfl
  · rintro ⟨policy,configured⟩
    rw [StackProperties.failurePolicy_eq_ok.mpr configured]
    exact ⟨policy,rfl⟩
  · rw [StackProperties.failurePolicy_of_unknown unknown]
    rfl

theorem Plan.tells (parts : List ConfigurationPart) (plan : Plan) :
    Tells (plan.conditions parts) (plan.validate.mapError (under parts)) := by
  simp only [Plan.validate,mapError_bind,mapError_inPart]
  refine .cons (tells_text parts fun missing => by rw [called_of_name missing]) fun _ _ named => ?_
  refine .cons (tells_text parts fun _ => by rw [called_of_id named]) fun _ _ _ => ?_
  refine .cons (tells_text parts fun _ => by rw [called_of_id named]) fun _ _ _ => ?_
  exact plan.properties.tells (parts ++ [.stackProperties])

theorem Service.tells (parts : List ConfigurationPart) (service : Service) :
    Tells (service.conditions parts) (service.validate.mapError (under parts)) := by
  simp only [Service.validate,mapError_bind,mapError_forM,mapError_inPart]
  refine .cons (tells_text parts fun missing => by rw [called_of_name missing]) fun _ _ named => ?_
  refine .cons (tells_text parts fun _ => by rw [called_of_id named]) fun _ _ _ => ?_
  refine .cons (tells_text parts fun _ => by rw [called_of_id named]) fun _ _ _ => ?_
  exact .forM fun plan _ => plan.tells (parts ++ [.plans])

theorem BrokerSettings.tells (settings : BrokerSettings) : Tells settings.conditions settings.validate := by
  rw [← mapError_under_nil settings.validate]
  simp only [BrokerSettings.validate,Catalog.validate,mapError_bind,mapError_inPart,mapError_forM]
  refine .cons (tells_text [] fun _ => rfl) fun _ _ _ => ?_
  refine .cons (tells_text [] fun _ => rfl) fun _ _ _ => ?_
  exact .forM fun service _ => service.tells [.catalog,.services]

namespace LogLevel

theorem text_in_small_letters (level : LogLevel) : level.text.toList.map Char.toLower = level.text.toList := by
  cases level <;> decide

theorem ofText?_eq_some_iff {raw : String} {level : LogLevel} : ofText? raw = some level ↔ SameButCase raw level.text := by
  rw [SameButCase,text_in_small_letters,ofText?]
  constructor
  · intro found
    simpa using List.find?_some found
  · intro same
    rw [same]
    cases level <;> decide

theorem text_ne_empty {raw : String} {level : LogLevel} (same : SameButCase raw level.text) : raw ≠ "" := by
  rintro rfl
  cases level <;> exact absurd same (by decide)

end LogLevel

namespace ServerSettings

theorem tells_filled (field : ServerField) (text : String) :
    Tells [⟨text ≠ "",.empty field⟩] (requireText field text) := by
  unfold requireText
  by_cases empty : text = ""
  · exact .single (fun met => absurd empty met) fun _ => by simp [empty]
  · exact .single (fun _ => ⟨(),by simp [empty]⟩) fun unmet => absurd empty unmet

theorem tells_level (raw : String) :
    Tells [⟨∃ level : LogLevel, SameButCase raw level.text,.unsupportedLogLevel raw⟩] (requireLevel raw) := by
  simp only [← LogLevel.ofText?_eq_some_iff]
  unfold requireLevel
  refine .search .rfl (fun level known => ⟨(),by rw [known]; rfl⟩) fun unknown => ?_
  rw [unknown]
  rfl

theorem tells (settings : ServerSettings) : Tells settings.conditions settings.validate := by
  unfold validate
  refine .cons (tells_filled .logLevel settings.logLevel) fun _ _ _ => ?_
  refine .cons (tells_level settings.logLevel) fun _ _ _ => ?_
  refine .cons (tells_filled .username settings.username) fun _ _ _ => ?_
  refine .cons (tells_filled .password settings.password) fun _ _ _ => ?_
  exact settings.broker.tells.mapError SettingsFault.broker

end ServerSettings

/-! ### Complete settings -/

/-- A plan has its texts, a known failure policy or none, and a template. -/
structure Plan.Complete (plan : Plan) : Prop where
  id : plan.id ≠ ""
  name : plan.name ≠ ""
  description : plan.description ≠ ""
  policy : ∃ policy, Configures plan.properties.onFailure policy
  templateUrl : plan.properties.templateUrl ≠ ""

/-- A service has its texts, and its plans are complete. -/
structure Service.Complete (service : Service) : Prop where
  id : service.id ≠ ""
  name : service.name ≠ ""
  description : service.description ≠ ""
  plans : ∀ plan ∈ service.plans, plan.Complete

/-- Settings name a log level, have all their texts, and offer services that are complete. -/
structure ServerSettings.Complete (settings : ServerSettings) : Prop where
  logLevel : ∃ level : LogLevel, SameButCase settings.logLevel level.text
  username : settings.username ≠ ""
  password : settings.password ≠ ""
  region : settings.broker.region ≠ ""
  stackPrefix : settings.broker.stackPrefix ≠ ""
  services : ∀ service ∈ settings.broker.catalog.services, service.Complete

theorem Plan.allMet_iff {parts : List ConfigurationPart} {plan : Plan} :
    AllMet (plan.conditions parts) ↔ plan.Complete := by
  simp only [Plan.conditions,StackProperties.conditions,filledText,allMet_cons]
  constructor
  · rintro ⟨id,name,description,policy,url,-⟩
    exact ⟨id,name,description,policy,url⟩
  · rintro ⟨id,name,description,policy,url⟩
    exact ⟨id,name,description,policy,url,allMet_nil⟩

theorem Service.allMet_iff {parts : List ConfigurationPart} {service : Service} :
    AllMet (service.conditions parts) ↔ service.Complete := by
  simp only [Service.conditions,filledText,allMet_cons,allMet_flatMap,Plan.allMet_iff]
  constructor
  · rintro ⟨id,name,description,plans⟩
    exact ⟨id,name,description,plans⟩
  · rintro ⟨id,name,description,plans⟩
    exact ⟨id,name,description,plans⟩

theorem ServerSettings.allMet_iff {settings : ServerSettings} : AllMet settings.conditions ↔ settings.Complete := by
  simp only [ServerSettings.conditions,BrokerSettings.conditions,filledText,allMet_relay,allMet_cons,allMet_flatMap,
    Service.allMet_iff]
  constructor
  · rintro ⟨-,level,username,password,region,stackPrefix,services⟩
    exact ⟨level,username,password,region,stackPrefix,services⟩
  · rintro ⟨⟨level,same⟩,username,password,region,stackPrefix,services⟩
    exact ⟨LogLevel.text_ne_empty same,⟨level,same⟩,username,password,region,stackPrefix,services⟩

/-! ### The first fault -/

/-- The message of a fault names the parts on the way to it, from the outermost in. -/
theorem Invalid.message_under (parts : List ConfigurationPart) (cause : Invalid) :
    (under parts cause).message =
      parts.foldr (fun part told => "Validating " ++ part.label ++ " configuration: " ++ told) cause.message := by
  induction parts with
  | nil => rfl
  | cons part rest ih =>
    rw [List.foldr_cons,← ih]
    rfl

/-- Settings are valid exactly if they are complete, and otherwise the fault is that of the
    first of their conditions that is not met; its message names all parts on the way. -/
theorem first_fault_told (settings : ServerSettings) :
    (settings.validate = .ok () ↔ settings.Complete) ∧
      (∀ fault, settings.validate = .error fault ↔ FirstUnmet settings.conditions fault) ∧
      ∀ parts cause, (SettingsFault.broker (.under parts cause)).message = "Validating CloudFormation configuration: " ++
        parts.foldr (fun part told => "Validating " ++ part.label ++ " configuration: " ++ told) cause.message := by
  refine ⟨settings.tells.eq_ok_iff.trans ServerSettings.allMet_iff,fun fault => settings.tells.eq_error_iff,?_⟩
  intro parts cause
  rw [← Invalid.message_under]
  rfl

/-- Settings with several faults: the plan of the first service has no template, and the second
    service has no id. -/
def faultySettings : ServerSettings :=
  let plan : Plan := { Plan.blank with id := "small", name := "small", description := "a small one" }
  let first := { Service.blank with id := "db", name := "db", description := "a database", plans := [plan] }
  let second := { Service.blank with name := "queue" }
  ⟨"DEBUG","broker","secret",⟨"eu-west-1","cf",false,false,⟨[first,second]⟩⟩⟩

example : faultySettings.validate = .error (.broker (.under [.catalog,.services,.plans,.stackProperties]
    (.empty .templateUrl .stackProperties))) := rfl

end StackBroker
