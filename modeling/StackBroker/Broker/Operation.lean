import StackBroker.Settings
import StackBroker.Tags
import StackBroker.Broker.Message
import StackBroker.Broker.Refusal
import StackBroker.Broker.Step

/-!
# Operations

The operations of a broker that keeps one stack for each instance and remembers
nothing itself: the stack whose name is made from the instance id is the
instance. Each operation checks the request in a fixed order and then makes at
most one call.
-/
namespace StackBroker.Broker
open StackBroker.Stack (Call Details Failure)

/-- The name of the stack of an instance. -/
def stackName (settings : BrokerSettings) (instanceId : String) : String :=
  settings.stackPrefix ++ "-" ++ instanceId

/-! ### What stacks are asked for -/

/-- The failure policy of a plan; one that is unknown counts as none. -/
def policyOf (properties : StackProperties) : Option FailurePolicy :=
  match properties.failurePolicy with
  | .ok policy => policy
  | .error _ => none

/-- The stack of a plan, with the parameters of a caller over its defaults. -/
def planDetails (plan : Plan) (callerParameters : StringMap String) : Details :=
  { Details.blank with
    capabilities := plan.properties.capabilities
    disableRollback := plan.properties.disableRollback
    notificationArns := plan.properties.notificationArns
    onFailure := policyOf plan.properties
    parameters := Parameters.merge plan.properties.parameters callerParameters
    resourceTypes := plan.properties.resourceTypes
    stackPolicyUrl := plan.properties.stackPolicyUrl
    templateUrl := plan.properties.templateUrl
    timeoutInMinutes := plan.properties.timeoutInMinutes }

/-! ### Checks -/

/-- Refuses callers that do not wait. -/
def requireAsync (acceptsIncomplete : Bool) : Except Refusal Unit :=
  if acceptsIncomplete then .ok () else .error .asyncRequired

/-- The parameters of a caller where they are allowed; else they are not looked at. -/
def callerParameters (allowed : Bool) (raw : Option Json) : Except Refusal (StringMap String) :=
  if allowed then (Parameters.decode raw).mapError .invalidParameters else .ok .empty

/-- The plan with an id. -/
def requirePlan (settings : BrokerSettings) (id : String) : Except Refusal Plan :=
  match settings.catalog.findPlan? id with
  | some plan => .ok plan
  | none => .error (.planNotFound id)

/-- The service with an id. -/
def requireService (settings : BrokerSettings) (id : String) : Except Refusal Service :=
  match settings.catalog.findService? id with
  | some service => .ok service
  | none => .error (.serviceNotFound id)

/-- Refuses services whose instances keep their plan. -/
def requireUpdateable (service : Service) : Except Refusal Unit :=
  if service.planUpdateable then .ok () else .error .instanceNotUpdateable

/-- Refuses services without bindings. -/
def requireBindable (service : Service) : Except Refusal Unit :=
  if service.bindable then .ok () else .error .instanceNotBindable

/-! ### The operations -/

/-- The ids that a provision is tagged with. -/
def ProvisionDetails.subject (details : ProvisionDetails) : TagSubject :=
  ⟨details.serviceId,details.planId,details.organizationGuid,details.spaceGuid⟩

/-- The stack that a provision asks for, with its tags. -/
def provisionRequest (settings : BrokerSettings) (now : Instant) (details : ProvisionDetails)
    (acceptsIncomplete : Bool) : Except Refusal Details := do
  requireAsync acceptsIncomplete
  let parameters ← callerParameters settings.allowProvisionParameters details.parameters
  let plan ← requirePlan settings details.planId
  .ok { planDetails plan parameters with tags := tagsFor "Created" details.subject now }

/-- The stack that an update asks for. -/
def updateRequest (settings : BrokerSettings) (details : UpdateDetails) (acceptsIncomplete : Bool) :
    Except Refusal Details := do
  requireAsync acceptsIncomplete
  let parameters ← callerParameters settings.allowUpdateParameters details.parameters
  let service ← requireService settings details.serviceId
  requireUpdateable service
  let plan ← requirePlan settings details.planId
  .ok (planDetails plan parameters)

/-- A binding is possible with what is asked for. -/
def bindCheck (settings : BrokerSettings) (details : BindDetails) : Except Refusal Unit := do
  let service ← requireService settings details.serviceId
  requireBindable service

/-- Makes an instance by creating its stack. -/
def provision (settings : BrokerSettings) (now : Instant) (instanceId : String) (details : ProvisionDetails)
    (acceptsIncomplete : Bool) : Step (Except Refusal ProvisioningResponse) :=
  match provisionRequest settings now details acceptsIncomplete with
  | .error refusal => .answer (.error refusal)
  | .ok request =>
    .call (.create (stackName settings instanceId) request) fun reply =>
      match reply with
      | .ok _ => .ok ⟨none,true⟩
      | .error failure => .error (.stack failure)

/-- Changes an instance by modifying its stack. -/
def update (settings : BrokerSettings) (instanceId : String) (details : UpdateDetails)
    (acceptsIncomplete : Bool) : Step (Except Refusal OperationResponse) :=
  match updateRequest settings details acceptsIncomplete with
  | .error refusal => .answer (.error refusal)
  | .ok request =>
    .call (.modify (stackName settings instanceId) request) fun reply =>
      match reply with
      | .ok _ => .ok ⟨true⟩
      | .error failure => .error (.ofInstance failure)

/-- Removes an instance by deleting its stack. -/
def deprovision (settings : BrokerSettings) (instanceId : String) (acceptsIncomplete : Bool) :
    Step (Except Refusal OperationResponse) :=
  match requireAsync acceptsIncomplete with
  | .error refusal => .answer (.error refusal)
  | .ok _ =>
    .call (.delete (stackName settings instanceId)) fun reply =>
      match reply with
      | .ok _ => .ok ⟨true⟩
      | .error failure => .error (.ofInstance failure)

/-- Binds to an instance: its credentials are the outputs of its stack. -/
def bind (settings : BrokerSettings) (instanceId : String) (details : BindDetails) :
    Step (Except Refusal BindingResponse) :=
  match bindCheck settings details with
  | .error refusal => .answer (.error refusal)
  | .ok _ =>
    .call (.describe (stackName settings instanceId)) fun reply =>
      match reply with
      | .ok (stack : Details) => .ok ⟨stack.outputs⟩
      | .error failure => .error (.ofInstance failure)

/-- Unbinds from an instance, for which nothing has to be done. -/
def unbind : Step (Except Refusal Unit) := .answer (.ok ())

/-- What is told about the state of a stack. -/
def describeState (name : String) (stack : Details) : LastOperationResponse :=
  ⟨.ofStatus stack.status,"Stack '" ++ name ++ "' status is '" ++ stack.status.text ++ "'"⟩

/-- Tells how far the last operation on an instance has come. -/
def lastOperation (settings : BrokerSettings) (instanceId : String) :
    Step (Except Refusal LastOperationResponse) :=
  .call (.describe (stackName settings instanceId)) fun reply =>
    match reply with
    | .ok (stack : Details) => .ok (describeState (stackName settings instanceId) stack)
    | .error failure => .error (.ofInstance failure)

/-! ### Requests -/

/-- A request for an operation on an instance. -/
inductive Request where
  | provision (instanceId : String) (details : ProvisionDetails) (acceptsIncomplete : Bool)
  | update (instanceId : String) (details : UpdateDetails) (acceptsIncomplete : Bool)
  | deprovision (instanceId : String) (details : DeprovisionDetails) (acceptsIncomplete : Bool)
  | bind (instanceId bindingId : String) (details : BindDetails)
  | unbind (instanceId bindingId : String) (details : UnbindDetails)
  | lastOperation (instanceId : String)
deriving Repr

/-- The instance that a request is about. -/
def Request.instanceId : Request → String
  | .provision instanceId _ _ | .update instanceId _ _ | .deprovision instanceId _ _
  | .bind instanceId _ _ | .unbind instanceId _ _ | .lastOperation instanceId => instanceId

/-- The answer to a request that is granted. -/
inductive Response where
  | provisioned (response : ProvisioningResponse)
  | updated (response : OperationResponse)
  | deprovisioned (response : OperationResponse)
  | bound (response : BindingResponse)
  | unbound
  | lastOperation (response : LastOperationResponse)
deriving DecidableEq, Repr

/-- The step of a request at an instant. -/
def handle (settings : BrokerSettings) (now : Instant) : Request → Step (Except Refusal Response)
  | .provision instanceId details acceptsIncomplete =>
    (provision settings now instanceId details acceptsIncomplete).map (·.map .provisioned)
  | .update instanceId details acceptsIncomplete =>
    (update settings instanceId details acceptsIncomplete).map (·.map .updated)
  | .deprovision instanceId _ acceptsIncomplete =>
    (deprovision settings instanceId acceptsIncomplete).map (·.map .deprovisioned)
  | .bind instanceId _ details => (bind settings instanceId details).map (·.map .bound)
  | .unbind _ _ _ => unbind.map (·.map fun _ => .unbound)
  | .lastOperation instanceId => (lastOperation settings instanceId).map (·.map .lastOperation)

end StackBroker.Broker
