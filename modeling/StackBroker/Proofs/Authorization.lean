import StackBroker.Proofs.Exchange

/-!
What callers without the credentials of a server come to. They are answered before
the broker is asked, from what is no secret: the name of the backend, the number of
services and what the routes take (`handle_unauthenticated`). So they change nothing,
learn nothing, and are challenged on every route but that of the health report
(`unauthenticated_learns_nothing`).
-/
namespace StackBroker.Http
open StackBroker.Broker (Step)
open StackBroker.Stack (Backend Memory)

/-- A request does not carry the credentials: it has no header for them, or the first
    one is no text, is not read as credentials, or carries others. -/
inductive Unauthenticated (credentials : Credentials) (request : Request) : Prop where
  | missing (absent : request.header? "authorization" = none)
  | notText {bytes : List UInt8} (found : request.header? "authorization" = some bytes)
    (garbled : visibleText? bytes = none)
  | notRead {bytes : List UInt8} {text : String} (found : request.header? "authorization" = some bytes)
    (visible : visibleText? bytes = some text) (garbled : Credentials.ofHeader? text = none)
  | different {bytes : List UInt8} {text : String} {given : Credentials}
    (found : request.header? "authorization" = some bytes) (visible : visibleText? bytes = some text)
    (read : Credentials.ofHeader? text = some given) (differ : given ≠ credentials)

namespace Server

/-- The requests that are not authorized are those without the credentials. -/
theorem authorized_eq_false_iff {server : Server} {request : Request} :
    server.authorized request = false ↔ Unauthenticated server.credentials request := by
  unfold authorized Request.headerText?
  constructor
  · intro refused
    cases found : request.header? "authorization" with
    | none => exact .missing found
    | some bytes =>
      cases visible : visibleText? bytes with
      | none => exact .notText found visible
      | some text =>
        cases read : Credentials.ofHeader? text with
        | none => exact .notRead found visible read
        | some given => exact .different found visible read (by simpa [found,visible,read] using refused)
  · intro stranger
    cases stranger with
    | missing absent => simp [absent]
    | notText found garbled => simp [found,garbled]
    | notRead found visible garbled => simp [found,visible,garbled]
    | different found visible read differ => simp [found,visible,read,differ]

/-- The health report of a backend and a number of services. -/
def healthReport (backendName : String) (services : Nat) : Response :=
  .json 200 (.object [("status",.string "ok"),("version",.string version),("backend",.string backendName),
    ("services",Json.ofInt services)])

/-- The answer to a caller without credentials on a route. -/
def guardedAnswer (backendName : String) (services : Nat) (route : Route) (method : Method) : Response :=
  let supported := route.methods.contains method
  let allow := if supported then none else some route.allow
  if method = .options then { Response.bare 200 with allow := allow }
  else if route.isProtected then { unauthorized with allow := allow }
  else if supported then healthReport backendName services
  else { Response.bare 405 with allow := allow }

/-- The answer to a request without credentials. -/
def strangerAnswer (backendName : String) (services : Nat) (request : Request) : Response :=
  let method := Method.ofText request.method
  sent method <| match Route.ofPath? request.path with
    | some route => guardedAnswer backendName services route method
    | none => .bare (if method = .options then 200 else 404)

theorem onRoute_unauthenticated {server : Server} {request : Request}
    (stranger : Unauthenticated server.credentials request) (now : Instant) (route : Route) (method : Method) :
    server.onRoute now request route method =
      .answer (guardedAnswer server.backendName server.settings.catalog.shown.services.length route method) := by
  simp only [onRoute,guardedAnswer,authorized_eq_false_iff.mpr stranger,Bool.not_false,Bool.and_true]
  by_cases options : method = .options
  · rw [if_pos options,if_pos options]
  · rw [if_neg options,if_neg options]
    by_cases guarded : route.isProtected = true
    · rw [if_pos guarded,if_pos guarded]
    · rw [if_neg guarded,if_neg guarded]
      -- only the health report is for everyone
      cases route with
      | health =>
        cases Route.health.methods.contains method with
        | true => rfl
        | false => rfl
      | catalog | serviceInstance | lastOperation | binding | interfaceOutline => exact absurd rfl guarded

/-- A request without credentials is answered from the name of the backend and the
    number of services alone. -/
theorem handle_unauthenticated {server : Server} {request : Request}
    (stranger : Unauthenticated server.credentials request) (now : Instant) :
    server.handle now request =
      .answer (strangerAnswer server.backendName server.settings.catalog.shown.services.length request) := by
  cases found : Route.ofPath? request.path with
  | none => rw [handle_not_found found,strangerAnswer,found]
  | some route =>
    rw [handle_found found,onRoute_unauthenticated stranger,strangerAnswer,found]
    rfl

/-- Callers without credentials are challenged on every route but that of the health
    report, whatever else they ask for. -/
theorem strangerAnswer_challenges {request : Request} {route : Route} (found : Route.ofPath? request.path = some route)
    (guarded : route ≠ .health) (method : request.method ≠ "OPTIONS") (backendName : String) (services : Nat) :
    (strangerAnswer backendName services request).status = 401 ∧
      (strangerAnswer backendName services request).challenge = some challenge := by
  have options : Method.ofText request.method ≠ .options := fun same => method ((Method.ofText_eq_iff rfl).mp same)
  have isProtected : route.isProtected = true := by
    cases route with
    | health => exact absurd rfl guarded
    | catalog | serviceInstance | lastOperation | binding | interfaceOutline => rfl
  simp [strangerAnswer,found,guardedAnswer,options,isProtected,unauthorized,Response.json]

/-- A request without credentials makes no call and changes no stack. Its answer is the
    same from any server with as many services and the same name of the backend,
    whatever the backend holds, and it is a challenge on every route but that of the
    health report. -/
theorem unauthenticated_learns_nothing {server : Server} {request : Request}
    (stranger : Unauthenticated server.credentials request) (now : Instant) :
    (server.handle now request).request? = none ∧
      (∀ {σ : Type} (backend : Backend σ) (state : σ), ((server.handle now request).run backend state).2 = state) ∧
      (∀ (other : Server), Unauthenticated other.credentials request →
        other.settings.catalog.shown.services.length = server.settings.catalog.shown.services.length →
        other.backendName = server.backendName →
        ∀ (later : Instant) {σ τ : Type} (first : Backend σ) (second : Backend τ) (state : σ) (content : τ),
          ((other.handle later request).run second content).1 = ((server.handle now request).run first state).1) ∧
      ∀ route : Route, route ≠ .health → route.WellFormed → request.path = route.path → request.method ≠ "OPTIONS" →
        ∀ {σ : Type} (backend : Backend σ) (state : σ),
          ((server.handle now request).run backend state).1.status = 401 ∧
          ((server.handle now request).run backend state).1.challenge = some challenge := by
  rw [handle_unauthenticated stranger now]
  refine ⟨rfl,fun backend state => rfl,?_,?_⟩
  · intro other strange services name later σ τ first second state content
    rw [handle_unauthenticated strange later,services,name]
    rfl
  · intro route guarded wellFormed path method σ backend state
    exact strangerAnswer_challenges (Route.ofPath?_eq_some_iff.mpr ⟨path,wellFormed⟩) guarded method _ _

/-- A request with a wrong password, which would else remove an instance. -/
def intrusion : Request :=
  ⟨"DELETE","/v2/service_instances/i?accepts_incomplete=true",
    [("Authorization",Utf8.encode (Credentials.header ⟨"admin","guess"⟩))],[]⟩

theorem unauthenticated_learns_nothing_intrusion :
    Unauthenticated sample.credentials intrusion ∧ (sample.handle .epoch intrusion).request? = none ∧
      ∀ memory : Memory, ((sample.handle .epoch intrusion).run Memory.backend memory).2 = memory ∧
        ((sample.handle .epoch intrusion).run Memory.backend memory).1.status = 401 := by
  have stranger : Unauthenticated sample.credentials intrusion := authorized_eq_false_iff.mp (by decide +kernel)
  obtain ⟨silent,unchanged,-,challenged⟩ := unauthenticated_learns_nothing stranger .epoch
  refine ⟨stranger,silent,fun memory => ⟨unchanged Memory.backend memory,?_⟩⟩
  exact (challenged (.serviceInstance ['i']) (by decide) ⟨List.cons_ne_nil _ _,by decide⟩ (by decide +kernel) (by decide)
    Memory.backend memory).1

end Server
end StackBroker.Http
