import StackBroker.Cuts
import StackBroker.Proofs.Effects

/-!
Which call a request makes. A request makes at most one call, the one of its kind on
the stack of its instance, and makes it exactly if its checks are passed (`Calls`,
`request?_handle`). What a provision or an update asks for is built from the first plan
with the id that the request names (`FirstPlan`, `calls_built`).
-/
namespace StackBroker

/-! ### The first plan with an id -/

/-- A plan has an id, and no plan before it has: none of its service before it, and
    none of an earlier service. -/
def FirstPlan (catalog : Catalog) (id : String) (plan : Plan) : Prop :=
  ∃ earlier service later, catalog.services = earlier ++ service :: later ∧
    (∀ other ∈ earlier, ∀ candidate ∈ other.plans, candidate.id ≠ id) ∧
    ∃ before after, service.plans = before ++ plan :: after ∧ (∀ candidate ∈ before, candidate.id ≠ id) ∧ plan.id = id

theorem Catalog.findPlan?_eq_some_iff {catalog : Catalog} {id : String} {plan : Plan} :
    catalog.findPlan? id = some plan ↔ FirstPlan catalog id plan := by
  unfold Catalog.findPlan? Catalog.plans FirstPlan
  simp only [List.find?_flatMap,List.findSome?_eq_some_iff,find?_named_eq_some_iff]
  constructor
  · rintro ⟨earlier,service,later,split,found,none⟩
    exact ⟨earlier,service,later,split,by simpa using none,found⟩
  · rintro ⟨earlier,service,later,split,none,found⟩
    exact ⟨earlier,service,later,split,found,by simpa using none⟩

theorem FirstPlan.mem {catalog : Catalog} {id : String} {plan : Plan} (first : FirstPlan catalog id plan) :
    ∃ service ∈ catalog.services, plan ∈ service.plans := by
  obtain ⟨earlier,service,later,split,-,before,after,plans,-,-⟩ := first
  exact ⟨service,by simp [split],by simp [plans]⟩

end StackBroker

namespace StackBroker.Broker
open StackBroker.Stack (Call Details)

/-! ### Calls -/

/-- The call that a request makes once its checks are passed. -/
inductive Calls (settings : BrokerSettings) (now : Instant) : Request → Call → Prop where
  | provision {instanceId : String} {details : ProvisionDetails} {waits : Bool} {asked : Details}
    (allowed : provisionRequest settings now details waits = .ok asked) :
    Calls settings now (.provision instanceId details waits) (.create (stackName settings instanceId) asked)
  | update {instanceId : String} {details : UpdateDetails} {waits : Bool} {asked : Details}
    (allowed : updateRequest settings details waits = .ok asked) :
    Calls settings now (.update instanceId details waits) (.modify (stackName settings instanceId) asked)
  | deprovision {instanceId : String} {details : DeprovisionDetails} {waits : Bool}
    (allowed : requireAsync waits = .ok ()) :
    Calls settings now (.deprovision instanceId details waits) (.delete (stackName settings instanceId))
  | bind {instanceId bindingId : String} {details : BindDetails} (allowed : bindCheck settings details = .ok ()) :
    Calls settings now (.bind instanceId bindingId details) (.describe (stackName settings instanceId))
  | lastOperation {instanceId : String} :
    Calls settings now (.lastOperation instanceId) (.describe (stackName settings instanceId))

theorem Step.request?_map {α β : Type} (change : α → β) (step : Step α) :
    (step.map change).request? = step.request? := by
  cases step <;> rfl

theorem request?_provision {settings : BrokerSettings} {now : Instant} {instanceId : String}
    {details : ProvisionDetails} {waits : Bool} {call : Call} :
    (provision settings now instanceId details waits).request? = some call ↔
      ∃ asked, provisionRequest settings now details waits = .ok asked ∧
        call = .create (stackName settings instanceId) asked := by
  unfold provision
  cases provisionRequest settings now details waits with
  | error refusal => simp [Step.request?]
  | ok asked => simp [Step.request?,eq_comm]

theorem request?_update {settings : BrokerSettings} {instanceId : String} {details : UpdateDetails} {waits : Bool}
    {call : Call} :
    (update settings instanceId details waits).request? = some call ↔
      ∃ asked, updateRequest settings details waits = .ok asked ∧
        call = .modify (stackName settings instanceId) asked := by
  unfold update
  cases updateRequest settings details waits with
  | error refusal => simp [Step.request?]
  | ok asked => simp [Step.request?,eq_comm]

theorem request?_deprovision {settings : BrokerSettings} {instanceId : String} {waits : Bool} {call : Call} :
    (deprovision settings instanceId waits).request? = some call ↔
      requireAsync waits = .ok () ∧ call = .delete (stackName settings instanceId) := by
  unfold deprovision
  cases requireAsync waits with
  | error refusal => simp [Step.request?]
  | ok allowed => simp [Step.request?,eq_comm]

theorem request?_bind {settings : BrokerSettings} {instanceId : String} {details : BindDetails} {call : Call} :
    (bind settings instanceId details).request? = some call ↔
      bindCheck settings details = .ok () ∧ call = .describe (stackName settings instanceId) := by
  unfold bind
  cases bindCheck settings details with
  | error refusal => simp [Step.request?]
  | ok allowed => simp [Step.request?,eq_comm]

/-- A request makes the call of its kind, exactly if its checks are passed. -/
theorem request?_handle {settings : BrokerSettings} {now : Instant} {request : Request} {call : Call} :
    (handle settings now request).request? = some call ↔ Calls settings now request call := by
  cases request with
  | provision instanceId details waits =>
    rw [handle,Step.request?_map,request?_provision]
    constructor
    · rintro ⟨asked,allowed,rfl⟩
      exact .provision allowed
    · intro calls
      cases calls with
      | provision allowed => exact ⟨_,allowed,rfl⟩
  | update instanceId details waits =>
    rw [handle,Step.request?_map,request?_update]
    constructor
    · rintro ⟨asked,allowed,rfl⟩
      exact .update allowed
    · intro calls
      cases calls with
      | update allowed => exact ⟨_,allowed,rfl⟩
  | deprovision instanceId details waits =>
    rw [handle,Step.request?_map,request?_deprovision]
    constructor
    · rintro ⟨allowed,rfl⟩
      exact .deprovision allowed
    · intro calls
      cases calls with
      | deprovision allowed => exact ⟨allowed,rfl⟩
  | bind instanceId bindingId details =>
    rw [handle,Step.request?_map,request?_bind]
    constructor
    · rintro ⟨allowed,rfl⟩
      exact .bind allowed
    · intro calls
      cases calls with
      | bind allowed => exact ⟨allowed,rfl⟩
  | unbind instanceId bindingId details =>
    constructor
    · intro made
      simp [handle,unbind,Step.map,Step.request?] at made
    · intro calls
      cases calls
  | lastOperation instanceId =>
    constructor
    · intro made
      obtain rfl : Call.describe (stackName settings instanceId) = call := by
        simpa [handle,lastOperation,Step.map,Step.request?] using made
      exact .lastOperation
    · intro calls
      cases calls with
      | lastOperation => rfl

/-! ### What is asked for -/

/-- A call that makes or changes a stack. -/
def Asks (name : String) (asked : Details) (call : Call) : Prop := call = .create name asked ∨ call = .modify name asked

/-- The plan that a request names, if it is one for a plan. -/
def Request.planId? : Request → Option String
  | .provision _ details _ => some details.planId
  | .update _ details _ => some details.planId
  | .deprovision .. | .bind .. | .unbind .. | .lastOperation _ => none

/-- The parameters that a request carries. -/
def Request.parameters : Request → Option Json
  | .provision _ details _ => details.parameters
  | .update _ details _ => details.parameters
  | .deprovision .. | .bind .. | .unbind .. | .lastOperation _ => none

/-- Whether callers may set parameters by a request of its kind. -/
def Request.mayParameterize (settings : BrokerSettings) : Request → Bool
  | .provision .. => settings.allowProvisionParameters
  | .update .. => settings.allowUpdateParameters
  | .deprovision .. | .bind .. | .unbind .. | .lastOperation _ => false

/-- A call that makes or changes a stack is on the stack of the instance, and asks for
    the first plan that the request names with the parameters of the caller, but for
    the tags that a new stack gets. -/
theorem calls_built {settings : BrokerSettings} {now : Instant} {request : Request} {call : Call} {name : String}
    {asked : Details} (calls : Calls settings now request call) (asks : Asks name asked call) :
    name = stackName settings request.instanceId ∧ ∃ planId plan parameters,
      request.planId? = some planId ∧ FirstPlan settings.catalog planId plan ∧
      callerParameters (request.mayParameterize settings) request.parameters = .ok parameters ∧
      { asked with tags := .empty } = planDetails plan parameters := by
  cases calls with
  | provision allowed =>
    obtain ⟨rfl,rfl⟩ : stackName settings _ = name ∧ _ = asked := by simpa [Asks] using asks
    obtain ⟨-,parameters,plan,decoded,found,rfl⟩ := provisionRequest_eq_ok.mp allowed
    exact ⟨rfl,_,plan,parameters,rfl,Catalog.findPlan?_eq_some_iff.mp found,decoded,rfl⟩
  | update allowed =>
    obtain ⟨rfl,rfl⟩ : stackName settings _ = name ∧ _ = asked := by simpa [Asks] using asks
    obtain ⟨-,parameters,service,plan,decoded,-,-,found,rfl⟩ := updateRequest_eq_ok.mp allowed
    exact ⟨rfl,_,plan,parameters,rfl,Catalog.findPlan?_eq_some_iff.mp found,decoded,rfl⟩
  | deprovision | bind | lastOperation => simp [Asks] at asks

end StackBroker.Broker
