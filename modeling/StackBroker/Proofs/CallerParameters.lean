import StackBroker.Proofs.Calls

/-!
How the parameters of callers reach a stack. What a request gives as parameters is an
object of strings or nothing (`Parameters.Gives`). Where callers may set no parameters,
requests that differ in them alone are the same step (`provision_closed`,
`update_closed`), so that the stacks of a broker that closes both ways have the
defaults of a plan in every state that it reaches (`run_defaults`). Where they may, the
parameters that are asked for are the defaults with those of the caller laid over them,
and anything else is refused before any call (`parameters_by_permission`).
-/
namespace StackBroker

namespace Parameters

/-- What some value gives as parameters: none if there is no value or null, and the
    strings of an object all of whose values are strings. -/
inductive Gives : Option Json → StringMap String → Prop where
  | absent : Gives none .empty
  | null : Gives (some .null) .empty
  | object {members : List (String × Json)} {given : StringMap String}
    (strings : StringMap.ofList members = given.mapValues .string) : Gives (some (.object members)) given

theorem decodeEntries_eq_ok_iff {entries : List (String × Json)} {found : List (String × String)} :
    decodeEntries entries = .ok found ↔ entries = found.map fun entry => (entry.1,.string entry.2) := by
  induction entries generalizing found with
  | nil => cases found <;> simp [decodeEntries]
  | cons head rest ih =>
    obtain ⟨name,value⟩ := head
    cases value with
    | string text =>
      rw [decodeEntries]
      cases found with
      | nil => cases decodeEntries rest <;> simp [Except.map]
      | cons first others =>
        rw [List.map_cons,List.cons_eq_cons,← ih]
        cases decodeEntries rest <;> simp [Except.map,Prod.ext_iff]
    | null | bool | number | array | object => cases found <;> simp [decodeEntries]

theorem decode_object {members : List (String × Json)} {given : StringMap String} :
    decode (some (.object members)) = .ok given ↔ StringMap.ofList members = given.mapValues .string := by
  rw [decode]
  constructor
  · intro decoded
    cases read : decodeEntries (StringMap.ofList members).entries with
    | error reason => simp [read,Except.map] at decoded
    | ok found =>
      -- the strings keep the order of their keys, so making a map of them moves nothing
      have strings := decodeEntries_eq_ok_iff.mp read
      have sorted : Ascending found := by
        have ascending := (StringMap.ofList members).ascending
        rw [strings] at ascending
        unfold Ascending at ascending ⊢
        rwa [List.pairwise_map] at ascending
      have made : StringMap.ofList found = ⟨found,sorted⟩ := StringMap.ofList_entries ⟨found,sorted⟩
      obtain rfl : StringMap.ofList found = given := by simpa [read,Except.map] using decoded
      rw [made]
      exact StringMap.ext_entries strings
  · intro strings
    have read : decodeEntries (StringMap.ofList members).entries = .ok given.entries :=
      decodeEntries_eq_ok_iff.mpr (congrArg StringMap.entries strings)
    simp [read,Except.map]

/-- Parameters are decoded exactly to what their value gives. -/
theorem decode_eq_ok_iff {raw : Option Json} {given : StringMap String} : decode raw = .ok given ↔ Gives raw given := by
  constructor
  · intro decoded
    cases raw with
    | none =>
      cases decoded
      exact .absent
    | some value =>
      cases value with
      | null =>
        cases decoded
        exact .null
      | object members => exact .object (decode_object.mp decoded)
      | bool | number | string | array => cases decoded
  · intro gives
    cases gives with
    | absent | null => rfl
    | object strings => exact decode_object.mpr strings

/-- Defaults without parameters of a caller stay as they are. -/
theorem merge_empty (defaults : StringMap String) : merge defaults .empty = defaults := rfl

end Parameters
end StackBroker

namespace StackBroker.Broker
open StackBroker.Stack (Backend Call Details Memory Slot)

/-! ### Callers that may set no parameters -/

theorem provision_closed {settings : BrokerSettings} (closed : settings.allowProvisionParameters = false)
    (now : Instant) (instanceId : String) (details : ProvisionDetails) (raw : Option Json) (waits : Bool) :
    provision settings now instanceId { details with parameters := raw } waits =
      provision settings now instanceId details waits := by
  have unread : provisionRequest settings now { details with parameters := raw } waits =
      provisionRequest settings now details waits := by
    simp only [provisionRequest,closed,callerParameters_closed]
    rfl
  rw [provision,unread,provision]

theorem update_closed {settings : BrokerSettings} (closed : settings.allowUpdateParameters = false)
    (instanceId : String) (details : UpdateDetails) (raw : Option Json) (waits : Bool) :
    update settings instanceId { details with parameters := raw } waits = update settings instanceId details waits := by
  have unread : updateRequest settings { details with parameters := raw } waits = updateRequest settings details waits := by
    simp only [updateRequest,closed,callerParameters_closed]
  rw [update,unread,update]

/-! ### Default parameters in every state -/

/-- A stack has the default parameters of a plan on offer. -/
def HasDefaults (settings : BrokerSettings) (stack : Details) : Prop :=
  ∃ service ∈ settings.catalog.services, ∃ plan ∈ service.plans, stack.parameters = plan.properties.parameters

/-- What is asked for where callers may set no parameters has the defaults. -/
theorem hasDefaults_of_calls {settings : BrokerSettings} {now : Instant} {request : Request} {call : Call}
    {name : String} {asked : Details} (closed : request.mayParameterize settings = false)
    (calls : Calls settings now request call) (asks : Asks name asked call) : HasDefaults settings asked := by
  obtain ⟨-,planId,plan,parameters,-,first,decoded,built⟩ := calls_built calls asks
  obtain ⟨service,offered,mine⟩ := first.mem
  rw [closed,callerParameters_closed,Except.ok.injEq] at decoded
  have merged : asked.parameters = Parameters.merge plan.properties.parameters parameters :=
    congrArg Details.parameters built
  exact ⟨service,offered,plan,mine,by rw [merged,← decoded,Parameters.merge_empty]⟩

theorem effect_defaults {settings : BrokerSettings} (provisions : settings.allowProvisionParameters = false)
    (updates : settings.allowUpdateParameters = false) {now : Instant} {count : Nat} {request : Request}
    {slot next : Slot} {reply : Except Refusal Response} (effect : Effect settings now count request slot reply next)
    (before : ∀ stack ∈ slot, HasDefaults settings stack) : ∀ stack ∈ next, HasDefaults settings stack := by
  cases effect with
  | @provisioned instanceId details waits asked allowed =>
    have closed : Request.mayParameterize settings (.provision instanceId details waits) = false := provisions
    have calls : Calls settings now (.provision instanceId details waits)
        (.create (stackName settings instanceId) asked) := .provision allowed
    have defaults : HasDefaults settings asked := hasDefaults_of_calls closed calls (.inl rfl)
    rintro stack ⟨⟩
    exact defaults
  | @updated instanceId details waits asked stored allowed =>
    have closed : Request.mayParameterize settings (.update instanceId details waits) = false := updates
    have calls : Calls settings now (.update instanceId details waits)
        (.modify (stackName settings instanceId) asked) := .update allowed
    have defaults : HasDefaults settings asked := hasDefaults_of_calls closed calls (.inr rfl)
    rintro stack ⟨⟩
    exact defaults
  | deprovisioned allowed => simp
  | refused | bound | unbound | told => exact before

/-- An intervention that leaves parameters alone leaves the defaults in place. -/
theorem amend_defaults {settings : BrokerSettings} {memory : Memory} {change : Details → Details}
    (same : ∀ stack, (change stack).parameters = stack.parameters) (target : String)
    (before : ∀ name, ∀ stack ∈ memory.get? name, HasDefaults settings stack) :
    ∀ name, ∀ stack ∈ (memory.amend target change).2.get? name, HasDefaults settings stack := by
  intro name stack stored
  rw [Memory.get?_amend] at stored
  split at stored
  · obtain ⟨kept,found,rfl⟩ := Option.map_eq_some_iff.mp stored
    obtain ⟨service,offered,plan,mine,equal⟩ := before name kept found
    exact ⟨service,offered,plan,mine,(same kept).trans equal⟩
  · exact before name stack stored

theorem event_defaults {settings : BrokerSettings} (provisions : settings.allowProvisionParameters = false)
    (updates : settings.allowUpdateParameters = false) (event : Event) {memory : Memory}
    (before : ∀ name, ∀ stack ∈ memory.get? name, HasDefaults settings stack) :
    ∀ name, ∀ stack ∈ (event.run settings memory).2.get? name, HasDefaults settings stack := by
  cases event with
  | request now request =>
    intro name
    by_cases own : name = stackName settings request.instanceId
    · subst own
      exact effect_defaults provisions updates (handle_effect settings now request memory) (before _)
    · have same : (Event.run settings memory (.request now request)).2.get? name = memory.get? name :=
        handle_frame settings now request memory own
      rw [same]
      exact before name
  | setStatus target status =>
    have kept (stack : Details) : { stack with status := status }.parameters = stack.parameters := rfl
    exact amend_defaults kept target before
  | setOutputs target outputs =>
    have kept (stack : Details) : { stack with outputs := outputs }.parameters = stack.parameters := rfl
    exact amend_defaults kept target before

/-- After any history that begins without stacks, every stack has the defaults of a
    plan, if callers may set no parameters. -/
theorem run_defaults {settings : BrokerSettings} (provisions : settings.allowProvisionParameters = false)
    (updates : settings.allowUpdateParameters = false) (events : List Event) {memory : Memory}
    (before : ∀ name, ∀ stack ∈ memory.get? name, HasDefaults settings stack) :
    ∀ name, ∀ stack ∈ (History.after settings memory events).get? name, HasDefaults settings stack := by
  induction events generalizing memory with
  | nil => exact before
  | cons event rest ih => exact ih (event_defaults provisions updates event before)

/-! ### Callers that may set parameters -/

theorem callerParameters_eq_ok {raw : Option Json} {given : StringMap String} :
    callerParameters true raw = .ok given ↔ Parameters.Gives raw given := by
  rw [← Parameters.decode_eq_ok_iff,callerParameters_open]
  cases Parameters.decode raw with
  | error reason => exact ⟨nofun,nofun⟩
  | ok found => exact ⟨fun same => congrArg _ (Except.ok.inj same),fun same => congrArg _ (Except.ok.inj same)⟩

/-- A value that gives no parameters is refused for what it is. -/
theorem callerParameters_malformed {raw : Option Json} (malformed : ∀ given, ¬ Parameters.Gives raw given) :
    ∃ reason, callerParameters true raw = .error (.invalidParameters reason) := by
  rw [callerParameters_open]
  cases read : Parameters.decode raw with
  | ok given => exact absurd (Parameters.decode_eq_ok_iff.mp read) (malformed given)
  | error reason => exact ⟨reason,rfl⟩

theorem provision_malformed {settings : BrokerSettings} (allowed : settings.allowProvisionParameters = true)
    (now : Instant) (instanceId : String) {details : ProvisionDetails}
    (malformed : ∀ given, ¬ Parameters.Gives details.parameters given) :
    ∃ reason, provision settings now instanceId details true = .answer (.error (.invalidParameters reason)) := by
  obtain ⟨reason,refused⟩ := callerParameters_malformed malformed
  refine ⟨reason,?_⟩
  have unasked : provisionRequest settings now details true = .error (.invalidParameters reason) := by
    rw [provisionRequest,allowed,refused]
    rfl
  rw [provision,unasked]

theorem update_malformed {settings : BrokerSettings} (allowed : settings.allowUpdateParameters = true)
    (instanceId : String) {details : UpdateDetails}
    (malformed : ∀ given, ¬ Parameters.Gives details.parameters given) :
    ∃ reason, update settings instanceId details true = .answer (.error (.invalidParameters reason)) := by
  obtain ⟨reason,refused⟩ := callerParameters_malformed malformed
  refine ⟨reason,?_⟩
  have unasked : updateRequest settings details true = .error (.invalidParameters reason) := by
    rw [updateRequest,allowed,refused]
    rfl
  rw [update,unasked]

/-- What is asked for has the defaults of the first plan with an id, with what a value
    gives laid over them. -/
def Overlays (settings : BrokerSettings) (planId : String) (raw : Option Json) (asked : Details) : Prop :=
  ∃ plan given, FirstPlan settings.catalog planId plan ∧ Parameters.Gives raw given ∧
    ∀ key, asked.parameters.get? key = (given.get? key).or (plan.properties.parameters.get? key)

/-- Two steps that nobody can tell apart: they make the same calls, and over every
    backend in every state they come to the same answer and the same next state. -/
def Indistinguishable {α : Type} (first second : Step α) : Prop :=
  first.request? = second.request? ∧
    ∀ {σ : Type} (backend : Backend σ) (state : σ), first.run backend state = second.run backend state

theorem Indistinguishable.of_eq {α : Type} {first second : Step α} (same : first = second) :
    Indistinguishable first second := by
  subst same
  exact ⟨rfl,fun _ _ => rfl⟩

/-- How a broker treats the parameters of callers. -/
structure GuardsParameters (settings : BrokerSettings) : Prop where
  provisionClosed : settings.allowProvisionParameters = false →
    ∀ now instanceId (details : ProvisionDetails) first second waits,
      Indistinguishable (provision settings now instanceId { details with parameters := first } waits)
        (provision settings now instanceId { details with parameters := second } waits)
  updateClosed : settings.allowUpdateParameters = false →
    ∀ instanceId (details : UpdateDetails) first second waits,
      Indistinguishable (update settings instanceId { details with parameters := first } waits)
        (update settings instanceId { details with parameters := second } waits)
  defaults : settings.allowProvisionParameters = false → settings.allowUpdateParameters = false →
    ∀ events name, ∀ stack ∈ (History.after settings .empty events).get? name, HasDefaults settings stack
  provisionOpen : settings.allowProvisionParameters = true → ∀ now instanceId details waits call,
    (provision settings now instanceId details waits).request? = some call →
      ∃ asked, call = .create (stackName settings instanceId) asked ∧
        Overlays settings details.planId details.parameters asked
  updateOpen : settings.allowUpdateParameters = true → ∀ instanceId details waits call,
    (update settings instanceId details waits).request? = some call →
      ∃ asked, call = .modify (stackName settings instanceId) asked ∧
        Overlays settings details.planId details.parameters asked
  provisionCalls : settings.allowProvisionParameters = true → ∀ now instanceId details plan given,
    FirstPlan settings.catalog details.planId plan → Parameters.Gives details.parameters given →
      ∃ call, (provision settings now instanceId details true).request? = some call
  updateCalls : settings.allowUpdateParameters = true → ∀ instanceId details service plan given,
    settings.catalog.findService? details.serviceId = some service → service.planUpdateable = true →
      FirstPlan settings.catalog details.planId plan → Parameters.Gives details.parameters given →
        ∃ call, (update settings instanceId details true).request? = some call
  provisionMalformed : settings.allowProvisionParameters = true →
    ∀ now instanceId (details : ProvisionDetails), (∀ given, ¬ Parameters.Gives details.parameters given) →
      ∃ reason, provision settings now instanceId details true = .answer (.error (.invalidParameters reason))
  updateMalformed : settings.allowUpdateParameters = true →
    ∀ instanceId (details : UpdateDetails), (∀ given, ¬ Parameters.Gives details.parameters given) →
      ∃ reason, update settings instanceId details true = .answer (.error (.invalidParameters reason))

theorem overlays_planDetails {settings : BrokerSettings} {planId : String} {raw : Option Json} {plan : Plan}
    {given : StringMap String} (first : FirstPlan settings.catalog planId plan) (gives : Parameters.Gives raw given)
    {asked : Details} (merged : asked.parameters = (planDetails plan given).parameters) :
    Overlays settings planId raw asked :=
  ⟨plan,given,first,gives,fun key => by rw [merged]; exact StringMap.get?_overlay _ given key⟩

/-- Parameters of callers reach a stack by the permission for their kind of request and
    by nothing else. -/
theorem parameters_by_permission (settings : BrokerSettings) : GuardsParameters settings where
  provisionClosed closed now instanceId details first second waits := by
    refine .of_eq ?_
    rw [provision_closed closed now instanceId details first,provision_closed closed now instanceId details second]
  updateClosed closed instanceId details first second waits := by
    refine .of_eq ?_
    rw [update_closed closed instanceId details first,update_closed closed instanceId details second]
  defaults provisions updates events := run_defaults provisions updates events (by simp)
  provisionOpen allowed now instanceId details waits call made := by
    obtain ⟨asked,passed,rfl⟩ := request?_provision.mp made
    obtain ⟨-,given,plan,decoded,found,built⟩ := provisionRequest_eq_ok.mp passed
    rw [allowed,callerParameters_eq_ok] at decoded
    exact ⟨asked,rfl,overlays_planDetails (Catalog.findPlan?_eq_some_iff.mp found) decoded (by rw [built])⟩
  updateOpen allowed instanceId details waits call made := by
    obtain ⟨asked,passed,rfl⟩ := request?_update.mp made
    obtain ⟨-,given,service,plan,decoded,-,-,found,built⟩ := updateRequest_eq_ok.mp passed
    rw [allowed,callerParameters_eq_ok] at decoded
    exact ⟨asked,rfl,overlays_planDetails (Catalog.findPlan?_eq_some_iff.mp found) decoded (by rw [built])⟩
  provisionCalls allowed now instanceId details plan given first gives := by
    have passed : provisionRequest settings now details true = .ok _ := provisionRequest_eq_ok.mpr
      ⟨rfl,given,plan,by rw [allowed,callerParameters_eq_ok]; exact gives,
        Catalog.findPlan?_eq_some_iff.mpr first,rfl⟩
    exact ⟨_,request?_provision.mpr ⟨_,passed,rfl⟩⟩
  updateCalls allowed instanceId details service plan given found changes first gives := by
    have passed : updateRequest settings details true = .ok _ := updateRequest_eq_ok.mpr
      ⟨rfl,given,service,plan,by rw [allowed,callerParameters_eq_ok]; exact gives,found,changes,
        Catalog.findPlan?_eq_some_iff.mpr first,rfl⟩
    exact ⟨_,request?_update.mpr ⟨_,passed,rfl⟩⟩
  provisionMalformed allowed now instanceId _ malformed := provision_malformed allowed now instanceId malformed
  updateMalformed allowed instanceId _ malformed := update_malformed allowed instanceId malformed

/-- The sample settings, with parameters allowed for provisions alone. -/
def generousSettings : BrokerSettings := { sampleSettings with allowProvisionParameters := true }

theorem parameters_by_permission_generous :
    (∃ name asked, (provision generousSettings .epoch "i"
        ⟨"db","small","org","space",some (.object [("size",.string "xl")])⟩ true).request? = some (.create name asked) ∧
      asked.parameters.get? "size" = some "xl") ∧
      (∃ reason, provision generousSettings .epoch "i" ⟨"db","small","org","space",some (.array [])⟩ true =
        .answer (.error (.invalidParameters reason))) ∧
      Indistinguishable (update generousSettings "i" ⟨"db","small",some (.array []),none⟩ true)
        (update generousSettings "i" ⟨"db","small",none,none⟩ true) := by
  have guards := parameters_by_permission generousSettings
  refine ⟨?_,?_,guards.updateClosed rfl "i" ⟨"db","small",none,none⟩ (some (.array [])) none true⟩
  · obtain ⟨asked,passed⟩ : ∃ asked, provisionRequest generousSettings .epoch
        ⟨"db","small","org","space",some (.object [("size",.string "xl")])⟩ true = .ok asked := ⟨_,rfl⟩
    have made : (provision generousSettings .epoch "i"
        ⟨"db","small","org","space",some (.object [("size",.string "xl")])⟩ true).request? =
          some (.create (stackName generousSettings "i") asked) :=
      request?_provision.mpr ⟨asked,passed,rfl⟩
    obtain ⟨other,same,plan,given,-,gives,looked⟩ := guards.provisionOpen rfl .epoch "i" _ true _ made
    obtain rfl : asked = other := (Call.create.inj same).2
    have sized : given.get? "size" = some "xl" := by
      cases gives with
      | object strings =>
        have there : (given.mapValues Json.string).get? "size" = some (.string "xl") := by
          rw [← strings]
          rfl
        obtain ⟨text,found,same⟩ := Option.map_eq_some_iff.mp ((StringMap.get?_mapValues ..).symm.trans there)
        rw [found,Json.string.inj same]
    exact ⟨_,asked,made,by rw [looked,sized,Option.some_or]⟩
  · refine guards.provisionMalformed rfl .epoch "i" ⟨"db","small","org","space",some (.array [])⟩ ?_
    rintro given ⟨⟩

end StackBroker.Broker
