import StackBroker.Broker.Operation
import StackBroker.Broker.ShownCatalog
import StackBroker.Http.Credentials
import StackBroker.Http.MediaType
import StackBroker.Http.Outline
import StackBroker.Http.Query
import StackBroker.Http.Route
import StackBroker.Settings

/-!
# The server

How a request is answered. The path decides first, then the credentials, then
the method; what the operation needs is then taken from the path, the query and
the body, in this order, and the first part that cannot be read decides. What is
left is the step of the operation, so that an answer takes at most one call.
-/
namespace StackBroker.Http
open StackBroker.Broker (Refusal Step)
open StackBroker.Json (Codec)

/-- A broker behind credentials, over a backend of some name. -/
structure Server where
  settings : BrokerSettings
  credentials : Credentials
  backendName : String
deriving Repr

/-- The server of some settings, over a backend of some name. -/
def Server.ofSettings (settings : ServerSettings) (backendName : String) : Server :=
  ⟨settings.broker,⟨settings.username,settings.password⟩,backendName⟩

/-- The challenge to callers that are not authorized. -/
def challenge : String := "Basic realm=\"cloudformation-broker\""

/-- The version that is reported. -/
def version : String := "0.1.0"

/-! ### Answers to refusals -/

/-- The document of an error. -/
def errorDocument (code : Option String) (description : String) : Json :=
  .object ((code.toList.map fun code => ("error",.string code)) ++ [("description",.string description)])

/-- The status of a refusal. -/
def refusalStatus : Refusal → Nat
  | .asyncRequired | .instanceNotUpdateable | .instanceNotBindable => 422
  | .serviceNotFound _ | .planNotFound _ | .invalidParameters _ => 400
  | .instanceDoesNotExist => 404
  | .stack _ => 500

/-- The code of a refusal that has one. -/
def refusalCode : Refusal → Option String
  | .asyncRequired => some "AsyncRequired"
  | _ => none

/-- The answer to a refused request. -/
def refused (refusal : Refusal) : Response :=
  .json (refusalStatus refusal) (errorDocument (refusalCode refusal) refusal.message)

/-- The answer where a missing instance means that the caller has what it wants. -/
def refusedOrGone : Refusal → Response
  | .instanceDoesNotExist => .json 410 (.object [])
  | refusal => refused refusal

/-- The answer to a caller that is not authorized. -/
def unauthorized : Response :=
  { Response.json 401 (errorDocument none "Not Authorized") with challenge := some challenge }

/-- The answer to a granted or refused request. -/
def respond {α : Type} (granted : α → Response) (refusal : Refusal → Response) :
    Except Refusal α → Response
  | .ok value => granted value
  | .error reason => refusal reason

/-! ### What requests carry -/

/-- The text of a segment of the path. -/
def pathText (segment : List Char) : Except Response String :=
  match Route.decodeSegment? segment with
  | some text => .ok text
  | none => .error (.unreadable 400)

/-- Whether the caller waits. -/
def acceptsIncomplete (request : Request) : Except Response Bool :=
  match Query.flag? "accepts_incomplete" (Query.pairs request.query) with
  | some flag => .ok flag
  | none => .error (.unreadable 400)

/-- A text of the query. -/
def queryText (request : Request) (name : String) : Except Response String :=
  match Query.text? name (Query.pairs request.query) with
  | some text => .ok text
  | none => .error (.unreadable 400)

/-- The document in the body, which has to be declared as JSON. A body is taken to have
    at most 2 MiB (2097152 bytes): of a longer one that is declared as JSON no document
    is read, and the answer to it has status 413. -/
def bodyDocument {α : Type} (codec : Codec α) (request : Request) : Except Response α :=
  if ((request.headerText? "content-type").map MediaType.isJson).getD false then
    match codec.readDocument (Json.scan (Utf8.decode request.body)) with
    | .ok value => .ok value
    | .error .malformed => .error (.unreadable 400)
    | .error .mismatch => .error (.unreadable 422)
  else .error (.unreadable 415)

/-- The step of what a request carries, if it can be read. -/
def carried {α : Type} (parts : Except Response α) (step : α → Step Response) : Step Response :=
  match parts with
  | .ok value => step value
  | .error response => .answer response

namespace Server

/-! ### The routes -/

/-- The report that the server is up. -/
def health (server : Server) : Step Response :=
  .answer (.json 200 (.object [("status",.string "ok"),("version",.string version),
    ("backend",.string server.backendName),
    ("services",Json.ofInt server.settings.catalog.shown.services.length)]))

def catalog (server : Server) : Step Response :=
  .answer (.json 200 (ShownCatalog.codec.write server.settings.catalog.shown))

def provision (server : Server) (now : Instant) (segment : List Char) (request : Request) : Step Response :=
  carried (do
    let id ← pathText segment
    let waits ← acceptsIncomplete request
    let details ← bodyDocument Broker.ProvisionDetails.codec request
    .ok (id,waits,details)) fun (id,waits,details) =>
  (Broker.provision server.settings now id details waits).map <| respond
    (fun response => .json (if response.isAsync then 202 else 201)
      (Broker.ProvisioningResponse.codec.write response)) refused

/-- The answer to an operation that may go on. -/
def operationResponse (response : Broker.OperationResponse) : Response :=
  .json (if response.isAsync then 202 else 200) (Broker.OperationResponse.codec.write response)

def update (server : Server) (segment : List Char) (request : Request) : Step Response :=
  carried (do
    let id ← pathText segment
    let waits ← acceptsIncomplete request
    let details ← bodyDocument Broker.UpdateDetails.codec request
    .ok (id,waits,details)) fun (id,waits,details) =>
  (Broker.update server.settings id details waits).map (respond operationResponse refused)

def deprovision (server : Server) (segment : List Char) (request : Request) : Step Response :=
  carried (do
    let id ← pathText segment
    let waits ← acceptsIncomplete request
    let _ ← queryText request "service_id"
    let _ ← queryText request "plan_id"
    .ok (id,waits)) fun (id,waits) =>
  (Broker.deprovision server.settings id waits).map (respond operationResponse refusedOrGone)

def lastOperation (server : Server) (segment : List Char) : Step Response :=
  carried (pathText segment) fun id =>
  (Broker.lastOperation server.settings id).map <| respond
    (fun response => .json 200 (Broker.LastOperationResponse.codec.write response)) refusedOrGone

def bind (server : Server) (segment bindingSegment : List Char) (request : Request) : Step Response :=
  carried (do
    let id ← pathText segment
    let _ ← pathText bindingSegment
    let details ← bodyDocument Broker.BindDetails.codec request
    .ok (id,details)) fun (id,details) =>
  (Broker.bind server.settings id details).map <| respond
    (fun response => .json 201 (Broker.BindingResponse.codec.write response)) refused

def unbind (segment bindingSegment : List Char) (request : Request) : Step Response :=
  carried (do
    let _ ← pathText segment
    let _ ← pathText bindingSegment
    let _ ← queryText request "service_id"
    let _ ← queryText request "plan_id"
    .ok ()) fun _ =>
  Broker.unbind.map (respond (fun _ => .json 200 (.object [])) refused)

def interfaceOutline : Step Response := .answer ⟨200,.outline .broker,none,none⟩

/-! ### The whole -/

/-- The first credentials that a request carries are those of the server. -/
def authorized (server : Server) (request : Request) : Bool :=
  (request.headerText? "authorization").bind Credentials.ofHeader? == some server.credentials

/-- The answer without its body. -/
def headOnly (response : Response) : Response := { response with body := .empty }

/-- The step of a route and a method that it takes. -/
def perform (server : Server) (now : Instant) (request : Request) : Route → Method → Step Response
  | .health, _ => server.health
  | .catalog, _ => server.catalog
  | .interfaceOutline, _ => interfaceOutline
  | .lastOperation segment, _ => server.lastOperation segment
  | .serviceInstance segment, .put => server.provision now segment request
  | .serviceInstance segment, .patch => server.update segment request
  | .serviceInstance segment, _ => server.deprovision segment request
  | .binding segment bindingSegment, .put => server.bind segment bindingSegment request
  | .binding segment bindingSegment, _ => unbind segment bindingSegment request

/-- The step of a request on a route. -/
def onRoute (server : Server) (now : Instant) (request : Request) (route : Route) (method : Method) :
    Step Response :=
  let supported := route.methods.contains method
  let allow := if supported then none else some route.allow
  if method = .options then .answer { Response.bare 200 with allow := allow }
  else if route.isProtected && !server.authorized request then .answer { unauthorized with allow := allow }
  else if !supported then .answer { Response.bare 405 with allow := allow }
  else server.perform now request route method

/-- The step of a request. -/
def handle (server : Server) (now : Instant) (request : Request) : Step Response :=
  let method := Method.ofText request.method
  let step := match Route.ofPath? request.path with
    | some route => server.onRoute now request route method
    | none => .answer (.bare (if method = .options then 200 else 404))
  if method = .head then step.map headOnly else step

end Server
end StackBroker.Http
