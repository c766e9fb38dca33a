import Mathlib.Tactic.SplitIfs
import StackBroker.Http.Server
import StackBroker.Proofs.Effects
import StackBroker.Proofs.Paths

/-!
A request over HTTP is at most one request to the broker. What it carries is read
from its path, query and body (`asked?`, `Carries`), and its answer is made from the
answer of the broker (`answerTo`, `perform_asked`). A request that is not authorized,
that no route takes, or that cannot be read is answered without the broker
(`handle_answers_or_asks`).
-/
namespace StackBroker.Http
open StackBroker.Broker (Refusal Step)

/-! ### Parts that can be read -/

theorem bind_eq_ok {ε α β : Type} {first : Except ε α} {next : α → Except ε β} {value : β} :
    (first >>= next) = .ok value ↔ ∃ part, first = .ok part ∧ next part = .ok value := by
  cases first with
  | error fault => simp [Bind.bind,Except.bind]
  | ok part => simp [Bind.bind,Except.bind]

theorem pathText_eq_ok {segment : List Char} {text : String} :
    pathText segment = .ok text ↔ Route.decodeSegment? segment = some text := by
  unfold pathText
  cases Route.decodeSegment? segment <;> simp

@[simp] theorem carried_ok {α : Type} (value : α) (step : α → Step Response) :
    carried (.ok value) step = step value := rfl

/-- Parts are read one after the other, and the first that cannot be read decides. -/
@[simp] theorem carried_bind {α β : Type} (first : Except Response α) (next : α → Except Response β)
    (step : β → Step Response) :
    carried (first >>= next) step = carried first fun part => carried (next part) step := by
  cases first <;> rfl

/-- A caller waits exactly if its query says so, once. -/
theorem acceptsIncomplete_eq_true {request : Request} :
    acceptsIncomplete request = .ok true ↔
      Query.valuesOf "accepts_incomplete" (Query.pairs request.query) = ["true"] := by
  unfold acceptsIncomplete Query.flag?
  match Query.valuesOf "accepts_incomplete" (Query.pairs request.query) with
  | [] => simp
  | [value] =>
    by_cases yes : value = "true"
    · simp [yes]
    · by_cases no : value = "false"
      · simp [no]
      · simp [yes,no]
  | _ :: _ :: _ => simp

/-! ### Methods -/

/-- The word for a method, if it has one. -/
def Method.word? : Method → Option String
  | .get => some "GET"
  | .head => some "HEAD"
  | .put => some "PUT"
  | .patch => some "PATCH"
  | .delete => some "DELETE"
  | .options => some "OPTIONS"
  | .other => none

/-- A request names a method that has a word by that word alone. -/
theorem Method.ofText_eq_iff {text word : String} {method : Method} (known : method.word? = some word) :
    ofText text = method ↔ text = word := by
  constructor
  · rintro rfl
    unfold ofText at known
    split_ifs at known with get head put patch delete options
    · exact get.trans (Option.some.inj known)
    · exact head.trans (Option.some.inj known)
    · exact put.trans (Option.some.inj known)
    · exact patch.trans (Option.some.inj known)
    · exact delete.trans (Option.some.inj known)
    · exact options.trans (Option.some.inj known)
    · cases known
  · rintro rfl
    cases method <;> cases known <;> rfl

namespace Server

/-- A server of the sample settings. -/
def sample : Server := ⟨Broker.sampleSettings,⟨"admin","secret"⟩,"memory"⟩

/-! ### Requests to the broker -/

/-- The request to the broker that a request on a route is, if the route has one and
    its parts can be read. -/
def asked? (request : Request) : Route → Method → Option (Except Response Broker.Request)
  | .health,_ | .catalog,_ | .interfaceOutline,_ => none
  | .lastOperation segment,_ => some do
    let id ← pathText segment
    .ok (.lastOperation id)
  | .serviceInstance segment,.put => some do
    let id ← pathText segment
    let waits ← acceptsIncomplete request
    let details ← bodyDocument Broker.ProvisionDetails.codec request
    .ok (.provision id details waits)
  | .serviceInstance segment,.patch => some do
    let id ← pathText segment
    let waits ← acceptsIncomplete request
    let details ← bodyDocument Broker.UpdateDetails.codec request
    .ok (.update id details waits)
  | .serviceInstance segment,_ => some do
    let id ← pathText segment
    let waits ← acceptsIncomplete request
    let serviceId ← queryText request "service_id"
    let planId ← queryText request "plan_id"
    .ok (.deprovision id ⟨serviceId,planId⟩ waits)
  | .binding segment bindingSegment,.put => some do
    let id ← pathText segment
    let bindingId ← pathText bindingSegment
    let details ← bodyDocument Broker.BindDetails.codec request
    .ok (.bind id bindingId details)
  | .binding segment bindingSegment,_ => some do
    let id ← pathText segment
    let bindingId ← pathText bindingSegment
    let serviceId ← queryText request "service_id"
    let planId ← queryText request "plan_id"
    .ok (.unbind id bindingId ⟨serviceId,planId⟩)

/-- What a request on a route that takes its method is to the broker, and what is read
    of it for that. -/
inductive Carries (request : Request) : Route → Method → Broker.Request → Prop where
  | provision {segment : List Char} {id : String} {details : Broker.ProvisionDetails} {waits : Bool}
    (decoded : Route.decodeSegment? segment = some id) (waiting : acceptsIncomplete request = .ok waits)
    (document : bodyDocument Broker.ProvisionDetails.codec request = .ok details) :
    Carries request (.serviceInstance segment) .put (.provision id details waits)
  | update {segment : List Char} {id : String} {details : Broker.UpdateDetails} {waits : Bool}
    (decoded : Route.decodeSegment? segment = some id) (waiting : acceptsIncomplete request = .ok waits)
    (document : bodyDocument Broker.UpdateDetails.codec request = .ok details) :
    Carries request (.serviceInstance segment) .patch (.update id details waits)
  | deprovision {segment : List Char} {id serviceId planId : String} {waits : Bool}
    (decoded : Route.decodeSegment? segment = some id) (waiting : acceptsIncomplete request = .ok waits)
    (service : queryText request "service_id" = .ok serviceId)
    (plan : queryText request "plan_id" = .ok planId) :
    Carries request (.serviceInstance segment) .delete (.deprovision id ⟨serviceId,planId⟩ waits)
  | bind {segment bindingSegment : List Char} {id bindingId : String} {details : Broker.BindDetails}
    (decoded : Route.decodeSegment? segment = some id)
    (bindingDecoded : Route.decodeSegment? bindingSegment = some bindingId)
    (document : bodyDocument Broker.BindDetails.codec request = .ok details) :
    Carries request (.binding segment bindingSegment) .put (.bind id bindingId details)
  | unbind {segment bindingSegment : List Char} {id bindingId serviceId planId : String}
    (decoded : Route.decodeSegment? segment = some id)
    (bindingDecoded : Route.decodeSegment? bindingSegment = some bindingId)
    (service : queryText request "service_id" = .ok serviceId)
    (plan : queryText request "plan_id" = .ok planId) :
    Carries request (.binding segment bindingSegment) .delete (.unbind id bindingId ⟨serviceId,planId⟩)
  | lastOperation {segment : List Char} {method : Method} {id : String}
    (decoded : Route.decodeSegment? segment = some id) :
    Carries request (.lastOperation segment) method (.lastOperation id)

theorem carries_of_asked {request : Request} {route : Route} {method : Method} {asked : Broker.Request}
    (supported : method ∈ route.methods) (asks : asked? request route method = some (.ok asked)) :
    Carries request route method asked := by
  cases route with
  | health | catalog | interfaceOutline => simp [asked?] at asks
  | lastOperation segment =>
    obtain ⟨id,decoded,rest⟩ := bind_eq_ok.mp (Option.some.inj asks)
    cases rest
    exact .lastOperation (pathText_eq_ok.mp decoded)
  | serviceInstance segment =>
    cases method with
    | put =>
      obtain ⟨id,decoded,rest⟩ := bind_eq_ok.mp (Option.some.inj asks)
      obtain ⟨waits,waiting,rest⟩ := bind_eq_ok.mp rest
      obtain ⟨details,document,rest⟩ := bind_eq_ok.mp rest
      cases rest
      exact .provision (pathText_eq_ok.mp decoded) waiting document
    | patch =>
      obtain ⟨id,decoded,rest⟩ := bind_eq_ok.mp (Option.some.inj asks)
      obtain ⟨waits,waiting,rest⟩ := bind_eq_ok.mp rest
      obtain ⟨details,document,rest⟩ := bind_eq_ok.mp rest
      cases rest
      exact .update (pathText_eq_ok.mp decoded) waiting document
    | delete =>
      obtain ⟨id,decoded,rest⟩ := bind_eq_ok.mp (Option.some.inj asks)
      obtain ⟨waits,waiting,rest⟩ := bind_eq_ok.mp rest
      obtain ⟨serviceId,service,rest⟩ := bind_eq_ok.mp rest
      obtain ⟨planId,plan,rest⟩ := bind_eq_ok.mp rest
      cases rest
      exact .deprovision (pathText_eq_ok.mp decoded) waiting service plan
    | get | head | options | other => simp [Route.methods] at supported
  | binding segment bindingSegment =>
    cases method with
    | put =>
      obtain ⟨id,decoded,rest⟩ := bind_eq_ok.mp (Option.some.inj asks)
      obtain ⟨bindingId,bindingDecoded,rest⟩ := bind_eq_ok.mp rest
      obtain ⟨details,document,rest⟩ := bind_eq_ok.mp rest
      cases rest
      exact .bind (pathText_eq_ok.mp decoded) (pathText_eq_ok.mp bindingDecoded) document
    | delete =>
      obtain ⟨id,decoded,rest⟩ := bind_eq_ok.mp (Option.some.inj asks)
      obtain ⟨bindingId,bindingDecoded,rest⟩ := bind_eq_ok.mp rest
      obtain ⟨serviceId,service,rest⟩ := bind_eq_ok.mp rest
      obtain ⟨planId,plan,rest⟩ := bind_eq_ok.mp rest
      cases rest
      exact .unbind (pathText_eq_ok.mp decoded) (pathText_eq_ok.mp bindingDecoded) service plan
    | get | head | patch | options | other => simp [Route.methods] at supported

theorem asked_of_carries {request : Request} {route : Route} {method : Method} {asked : Broker.Request}
    (carries : Carries request route method asked) : asked? request route method = some (.ok asked) := by
  cases carries with
  | provision decoded waiting document =>
    rw [asked?,pathText_eq_ok.mpr decoded,waiting,document]
    rfl
  | update decoded waiting document =>
    rw [asked?,pathText_eq_ok.mpr decoded,waiting,document]
    rfl
  | deprovision decoded waiting service plan =>
    rw [asked?,pathText_eq_ok.mpr decoded,waiting,service,plan]
    · rfl
    · decide
    · decide
  | bind decoded bindingDecoded document =>
    rw [asked?,pathText_eq_ok.mpr decoded,pathText_eq_ok.mpr bindingDecoded,document]
    rfl
  | unbind decoded bindingDecoded service plan =>
    rw [asked?,pathText_eq_ok.mpr decoded,pathText_eq_ok.mpr bindingDecoded,service,plan]
    · rfl
    · decide
  | lastOperation decoded =>
    rw [asked?,pathText_eq_ok.mpr decoded]
    rfl

/-! ### Answers -/

/-- The answer to a granted request. -/
def grantedAnswer : Broker.Response → Response
  | .provisioned response =>
    .json (if response.isAsync then 202 else 201) (Broker.ProvisioningResponse.codec.write response)
  | .updated response | .deprovisioned response => operationResponse response
  | .bound response => .json 201 (Broker.BindingResponse.codec.write response)
  | .unbound => .json 200 (.object [])
  | .lastOperation response => .json 200 (Broker.LastOperationResponse.codec.write response)

theorem grantedAnswer_status (response : Broker.Response) : (grantedAnswer response).status ∈ [200,201,202] := by
  cases response with
  | provisioned response =>
    simp only [grantedAnswer,Response.json]
    split <;> decide
  | updated response | deprovisioned response =>
    simp only [grantedAnswer,operationResponse,Response.json]
    split <;> decide
  | bound response =>
    show 201 ∈ [200,201,202]
    decide
  | unbound | lastOperation response =>
    show 200 ∈ [200,201,202]
    decide

theorem grantedAnswer_status_ne {status : Nat} (other : status ∉ [200,201,202]) (response : Broker.Response) :
    (grantedAnswer response).status ≠ status := by
  rintro rfl
  exact other (grantedAnswer_status response)

/-- The answer to a refused request. An instance that is missing is gone where the
    caller wants to remove it or to know of its removal. -/
def refusedAnswer : Broker.Request → Refusal → Response
  | .deprovision .. | .lastOperation _ => refusedOrGone
  | _ => refused

theorem refusedAnswer_cases (asked : Broker.Request) (refusal : Refusal) :
    refusedAnswer asked refusal = refused refusal ∨
      refusal = .instanceDoesNotExist ∧ refusedAnswer asked refusal = .json 410 (.object []) := by
  cases asked with
  | deprovision | lastOperation =>
    cases refusal with
    | instanceDoesNotExist => exact .inr ⟨rfl,rfl⟩
    | asyncRequired | instanceNotUpdateable | instanceNotBindable | serviceNotFound | planNotFound
    | invalidParameters | stack => exact .inl rfl
  | provision | update | bind | unbind => exact .inl rfl

/-- The answer to a request to the broker. -/
def answerTo (asked : Broker.Request) : Except Refusal Broker.Response → Response :=
  respond grantedAnswer (refusedAnswer asked)

/-- The answer as it is sent: without its body if only its head is wanted. -/
def sent (method : Method) (response : Response) : Response :=
  if method = .head then headOnly response else response

@[simp] theorem sent_status (method : Method) (response : Response) :
    (sent method response).status = response.status := by
  unfold sent
  split <;> rfl

@[simp] theorem sent_challenge (method : Method) (response : Response) :
    (sent method response).challenge = response.challenge := by
  unfold sent
  split <;> rfl

/-- The answer to one kind of granted request is the answer to any granted request. -/
theorem map_respond {α : Type} (step : Step (Except Refusal α)) (kind : α → Broker.Response)
    (asked : Broker.Request) :
    step.map (respond (fun value => grantedAnswer (kind value)) (refusedAnswer asked)) =
      (step.map (·.map kind)).map (answerTo asked) := by
  have same (reply : Except Refusal α) :
      respond (fun value => grantedAnswer (kind value)) (refusedAnswer asked) reply =
        answerTo asked (reply.map kind) := by
    cases reply <;> rfl
  cases step with
  | answer reply => exact congrArg Step.answer (same reply)
  | call request resume => exact congrArg (Step.call request) (funext fun reply => same (resume reply))

theorem handle_provision (settings : BrokerSettings) (now : Instant) (id : String)
    (details : Broker.ProvisionDetails) (waits : Bool) :
    (Broker.handle settings now (.provision id details waits)).map (answerTo (.provision id details waits)) =
      (Broker.provision settings now id details waits).map (respond (fun response =>
        .json (if response.isAsync then 202 else 201) (Broker.ProvisioningResponse.codec.write response)) refused) :=
  (map_respond (Broker.provision settings now id details waits) .provisioned (.provision id details waits)).symm

theorem handle_update (settings : BrokerSettings) (now : Instant) (id : String) (details : Broker.UpdateDetails)
    (waits : Bool) :
    (Broker.handle settings now (.update id details waits)).map (answerTo (.update id details waits)) =
      (Broker.update settings id details waits).map (respond operationResponse refused) :=
  (map_respond (Broker.update settings id details waits) .updated (.update id details waits)).symm

theorem handle_deprovision (settings : BrokerSettings) (now : Instant) (id : String)
    (details : Broker.DeprovisionDetails) (waits : Bool) :
    (Broker.handle settings now (.deprovision id details waits)).map (answerTo (.deprovision id details waits)) =
      (Broker.deprovision settings id waits).map (respond operationResponse refusedOrGone) :=
  (map_respond (Broker.deprovision settings id waits) .deprovisioned (.deprovision id details waits)).symm

theorem handle_bind (settings : BrokerSettings) (now : Instant) (id bindingId : String)
    (details : Broker.BindDetails) :
    (Broker.handle settings now (.bind id bindingId details)).map (answerTo (.bind id bindingId details)) =
      (Broker.bind settings id details).map (respond (fun response =>
        .json 201 (Broker.BindingResponse.codec.write response)) refused) :=
  (map_respond (Broker.bind settings id details) .bound (.bind id bindingId details)).symm

theorem handle_unbind (settings : BrokerSettings) (now : Instant) (id bindingId : String)
    (details : Broker.UnbindDetails) :
    (Broker.handle settings now (.unbind id bindingId details)).map (answerTo (.unbind id bindingId details)) =
      Broker.unbind.map (respond (fun _ => .json 200 (.object [])) refused) :=
  (map_respond Broker.unbind (fun _ => .unbound) (.unbind id bindingId details)).symm

theorem handle_lastOperation (settings : BrokerSettings) (now : Instant) (id : String) :
    (Broker.handle settings now (.lastOperation id)).map (answerTo (.lastOperation id)) =
      (Broker.lastOperation settings id).map (respond (fun response =>
        .json 200 (Broker.LastOperationResponse.codec.write response)) refusedOrGone) :=
  (map_respond (Broker.lastOperation settings id) .lastOperation (.lastOperation id)).symm

/-- The step of a route that asks the broker is that of the request to the broker. -/
theorem perform_asked {server : Server} {now : Instant} {request : Request} {route : Route} {method : Method}
    {parts : Except Response Broker.Request} (asks : asked? request route method = some parts) :
    server.perform now request route method =
      carried parts fun asked => (Broker.handle server.settings now asked).map (answerTo asked) := by
  cases route with
  | health | catalog | interfaceOutline => simp [asked?] at asks
  | lastOperation segment =>
    obtain rfl := Option.some.inj asks
    simp only [perform,lastOperation,carried_bind,carried_ok,handle_lastOperation]
  | serviceInstance segment =>
    cases method with
    | put =>
      obtain rfl := Option.some.inj asks
      simp only [perform,provision,carried_bind,carried_ok,handle_provision]
    | patch =>
      obtain rfl := Option.some.inj asks
      simp only [perform,update,carried_bind,carried_ok,handle_update]
    | get | head | delete | options | other =>
      obtain rfl := Option.some.inj asks
      simp only [perform,deprovision,carried_bind,carried_ok,handle_deprovision]
  | binding segment bindingSegment =>
    cases method with
    | put =>
      obtain rfl := Option.some.inj asks
      simp only [perform,bind,carried_bind,carried_ok,handle_bind]
    | get | head | patch | delete | options | other =>
      obtain rfl := Option.some.inj asks
      simp only [perform,unbind,carried_bind,carried_ok,handle_unbind]

/-- A route that does not ask the broker is answered at once, and always granted. -/
theorem perform_told {server : Server} {now : Instant} {request : Request} {route : Route} {method : Method}
    (told : asked? request route method = none) :
    ∃ response, response.status = 200 ∧ server.perform now request route method = .answer response := by
  cases route with
  | health => exact ⟨_,rfl,by rw [perform,health]⟩
  | catalog => exact ⟨_,rfl,by rw [perform,catalog]⟩
  | interfaceOutline => exact ⟨_,rfl,by rw [perform,interfaceOutline]⟩
  | lastOperation segment => simp [asked?] at told
  | serviceInstance segment => cases method <;> simp [asked?] at told
  | binding segment bindingSegment => cases method <;> simp [asked?] at told

/-- An answer with its body is sent as it is, save that a body is cut off if only the
    head is wanted. -/
theorem map_sent (method : Method) (step : Step Response) :
    (if method = .head then step.map headOnly else step) = step.map (sent method) := by
  by_cases head : method = .head
  · rw [if_pos head]
    congr 1
    funext response
    rw [sent,if_pos head]
  · have whole : sent method = fun response => response := funext fun response => if_neg head
    rw [if_neg head,whole]
    cases step <;> rfl

/-! ### Requests over HTTP -/

/-- The step of a request on a route is what the route answers, as it is sent. -/
theorem handle_found {server : Server} {now : Instant} {request : Request} {route : Route}
    (found : Route.ofPath? request.path = some route) :
    server.handle now request =
      (server.onRoute now request route (Method.ofText request.method)).map (sent (Method.ofText request.method)) := by
  rw [← map_sent,handle,found]

/-- A request on no route is answered at once. -/
theorem handle_not_found {server : Server} {now : Instant} {request : Request}
    (found : Route.ofPath? request.path = none) :
    server.handle now request = .answer (sent (Method.ofText request.method)
      (.bare (if Method.ofText request.method = Method.options then 200 else 404))) := by
  rw [handle,found]
  exact map_sent _ _

theorem isProtected_of_asked? {request : Request} {route : Route} {method : Method}
    {parts : Except Response Broker.Request} (asks : asked? request route method = some parts) :
    route.isProtected = true := by
  cases route with
  | health => simp [asked?] at asks
  | catalog | interfaceOutline | lastOperation | serviceInstance | binding => rfl

/-- An authorized request on a route that takes its method is what the route performs. -/
theorem onRoute_supported {server : Server} {request : Request} {route : Route} {method : Method}
    (authorized : server.authorized request = true) (supported : method ∈ route.methods) (now : Instant) :
    server.onRoute now request route method = server.perform now request route method := by
  have plain : method ≠ .options := by
    rintro rfl
    cases route <;> simp [Route.methods] at supported
  have contained : route.methods.contains method = true := by simpa using supported
  simp only [onRoute,if_neg plain,authorized,contained,Bool.not_true,Bool.and_false,if_neg Bool.false_ne_true]

/-- An authorized request whose parts can be read is the request to the broker that
    they make up. -/
theorem handle_carried {server : Server} {request : Request} {route : Route} {asked : Broker.Request}
    (authorized : server.authorized request = true) (found : Route.ofPath? request.path = some route)
    (supported : Method.ofText request.method ∈ route.methods)
    (asks : asked? request route (Method.ofText request.method) = some (.ok asked)) (now : Instant) :
    server.handle now request = ((Broker.handle server.settings now asked).map (answerTo asked)).map
      (sent (Method.ofText request.method)) := by
  rw [handle_found found,onRoute_supported authorized supported,perform_asked asks,carried_ok]

/-- A request is answered at once, or it is authorized, on a route that takes its
    method, and is the request to the broker that it carries. -/
theorem handle_answers_or_asks (server : Server) (now : Instant) (request : Request) :
    (∃ response, server.handle now request = .answer response) ∨
      ∃ route asked, Route.ofPath? request.path = some route ∧ server.authorized request = true ∧
        Method.ofText request.method ∈ route.methods ∧
        asked? request route (Method.ofText request.method) = some (.ok asked) ∧
        server.handle now request = ((Broker.handle server.settings now asked).map (answerTo asked)).map
          (sent (Method.ofText request.method)) := by
  cases found : Route.ofPath? request.path with
  | none => exact .inl ⟨_,handle_not_found found⟩
  | some route =>
    rw [handle_found found]
    simp only [onRoute]
    by_cases options : Method.ofText request.method = .options
    · exact .inl ⟨_,by rw [if_pos options]; rfl⟩
    · rw [if_neg options]
      by_cases stranger : (route.isProtected && !server.authorized request) = true
      · exact .inl ⟨_,by rw [if_pos stranger]; rfl⟩
      · rw [if_neg stranger]
        by_cases supported : route.methods.contains (Method.ofText request.method) = true
        · rw [if_neg (by simpa using supported)]
          cases asks : asked? request route (Method.ofText request.method) with
          | none =>
            obtain ⟨response,-,told⟩ := perform_told asks
            exact .inl ⟨_,by rw [told]; rfl⟩
          | some parts =>
            rw [perform_asked asks]
            cases parts with
            | error response => exact .inl ⟨_,rfl⟩
            | ok asked =>
              have authorized : server.authorized request = true := by
                simpa [isProtected_of_asked? asks] using stranger
              exact .inr ⟨route,asked,rfl,authorized,by simpa using supported,asks,rfl⟩
        · exact .inl ⟨_,by rw [if_pos (by simpa using supported)]; rfl⟩

end Server
end StackBroker.Http
