import StackBroker.Http.Credentials.Exact
import StackBroker.Proofs.Authorization

/-!
Who is let in. No answer to an authorized request has the status 401, whatever the backend
replies: neither what is told, nor what the broker grants or refuses, nor what is said of
parts that cannot be read (`perform_admits`). So a request is answered with that status
exactly if it is not authorized where it has to be (`unauthorized_iff`). The header that is
written for the credentials of a server authorizes exactly if the username has no colon,
since it is read up to its first (`authorized_of_own_header`).
-/
namespace StackBroker.Broker.Step
open StackBroker.Stack (Backend)
variable {α β σ : Type}

/-- Every answer of a step has some property, whatever the reply to its call is. -/
def Always (property : α → Prop) : Step α → Prop
  | .answer value => property value
  | .call _ resume => ∀ reply, property (resume reply)

theorem always_of_forall {property : α → Prop} (all : ∀ value, property value) (step : Step α) :
    step.Always property := by
  cases step with
  | answer value => exact all value
  | call request resume => exact fun reply => all (resume reply)

theorem always_map {property : β → Prop} {change : α → β} {step : Step α} :
    (step.map change).Always property ↔ step.Always fun value => property (change value) := by
  cases step <;> exact Iff.rfl

theorem Always.run {property : α → Prop} {step : Step α} (always : step.Always property) (backend : Backend σ)
    (state : σ) : property (step.run backend state).1 := by
  cases step with
  | answer value => exact always
  | call request resume => exact always _

end StackBroker.Broker.Step

namespace StackBroker.Http
open StackBroker.Broker (Refusal Step)
open StackBroker.Json (Codec)
open StackBroker.Stack (Backend Memory)

/-! ### Parts that cannot be read -/

/-- Parts that cannot be read are malformed, of a type that is not taken, or of no use. -/
def Unread {α : Type} (parts : Except Response α) : Prop :=
  ∀ response, parts = .error response → ∃ status ∈ [400,415,422], response = .unreadable status

namespace Unread
variable {α β : Type}

theorem ok (value : α) : Unread (.ok value) := by
  intro response failed
  cases failed

theorem error {status : Nat} (listed : status ∈ [400,415,422]) : Unread (.error (.unreadable status) : Except Response α) := by
  intro response failed
  cases failed
  exact ⟨status,listed,rfl⟩

/-- One part after another. -/
theorem bind {first : Except Response α} {next : α → Except Response β} (before : Unread first)
    (after : ∀ value, Unread (next value)) : Unread (first >>= next) := by
  cases first with
  | ok value => exact after value
  | error response =>
    obtain ⟨status,listed,rfl⟩ := before response rfl
    exact error listed

theorem pathText (segment : List Char) : Unread (pathText segment) := by
  unfold Http.pathText
  split
  · exact ok _
  · exact error (by decide)

theorem acceptsIncomplete (request : Request) : Unread (acceptsIncomplete request) := by
  unfold Http.acceptsIncomplete
  split
  · exact ok _
  · exact error (by decide)

theorem queryText (request : Request) (name : String) : Unread (queryText request name) := by
  unfold Http.queryText
  split
  · exact ok _
  · exact error (by decide)

theorem bodyDocument (codec : Codec α) (request : Request) : Unread (bodyDocument codec request) := by
  unfold Http.bodyDocument
  split
  · split
    · exact ok _
    · exact error (by decide)
    · exact error (by decide)
  · exact error (by decide)

end Unread

namespace Server

theorem unread_of_asked {request : Request} {route : Route} {method : Method}
    {parts : Except Response Broker.Request} (asks : asked? request route method = some parts) : Unread parts := by
  have instanceId (segment : List Char) := Unread.pathText segment
  have waits := Unread.acceptsIncomplete request
  cases route with
  | health | catalog | interfaceOutline => simp [asked?] at asks
  | lastOperation segment =>
    obtain rfl := Option.some.inj asks
    exact .bind (instanceId segment) fun _ => .ok _
  | serviceInstance segment =>
    cases method with
    | put | patch =>
      obtain rfl := Option.some.inj asks
      exact .bind (instanceId segment) fun _ => .bind waits fun _ => .bind (.bodyDocument _ _) fun _ => .ok _
    | get | head | delete | options | other =>
      obtain rfl := Option.some.inj asks
      exact .bind (instanceId segment) fun _ => .bind waits fun _ => .bind (.queryText _ _) fun _ =>
        .bind (.queryText _ _) fun _ => .ok _
  | binding segment bindingSegment =>
    cases method with
    | put =>
      obtain rfl := Option.some.inj asks
      exact .bind (instanceId segment) fun _ => .bind (instanceId bindingSegment) fun _ =>
        .bind (.bodyDocument _ _) fun _ => .ok _
    | get | head | patch | delete | options | other =>
      obtain rfl := Option.some.inj asks
      exact .bind (instanceId segment) fun _ => .bind (instanceId bindingSegment) fun _ =>
        .bind (.queryText _ _) fun _ => .bind (.queryText _ _) fun _ => .ok _

/-! ### The status 401 -/

theorem refusedAnswer_admits (asked : Broker.Request) (refusal : Refusal) : (refusedAnswer asked refusal).status ≠ 401 := by
  rcases refusedAnswer_cases asked refusal with plain | ⟨-,gone⟩
  · rw [plain]
    cases refusal <;> simp [refused,refusalStatus,Response.json]
  · rw [gone]
    decide

/-- What a route performs is no answer to a caller that is not authorized. -/
theorem perform_admits (server : Server) (now : Instant) (request : Request) (route : Route) (method : Method) :
    (server.perform now request route method).Always fun answer => answer.status ≠ 401 := by
  cases asks : asked? request route method with
  | none =>
    obtain ⟨response,status,told⟩ := perform_told asks
    rw [told]
    exact fun same => absurd (status.symm.trans same) (by decide)
  | some parts =>
    rw [perform_asked asks]
    cases parts with
    | error response =>
      obtain ⟨status,listed,rfl⟩ := unread_of_asked asks response rfl
      rintro rfl
      exact absurd listed (by decide)
    | ok asked =>
      -- The answer is made of the reply of the broker, and no reply at all gives the status.
      refine Step.always_map.mpr (Step.always_of_forall (fun reply => ?_) _)
      cases reply with
      | ok response => exact grantedAnswer_status_ne (by decide) response
      | error refusal => exact refusedAnswer_admits asked refusal

theorem isProtected_iff {route : Route} : route.isProtected = true ↔ route ≠ .health := by
  cases route <;> simp [Route.isProtected]

/-- A request is answered with the status 401 exactly if it is not authorized, on a route
    that is not for everyone, and does not only ask what the route takes. -/
theorem unauthorized_iff {server : Server} {now : Instant} {request : Request} {σ : Type} {backend : Backend σ} {state : σ} :
    ((server.handle now request).run backend state).1.status = 401 ↔
      server.authorized request = false ∧ request.method ≠ "OPTIONS" ∧
        ∃ route, Route.ofPath? request.path = some route ∧ route ≠ .health := by
  have named : Method.ofText request.method = .options ↔ request.method = "OPTIONS" := Method.ofText_eq_iff rfl
  cases found : Route.ofPath? request.path with
  | none =>
    rw [handle_not_found found]
    simp only [Step.run,sent_status,reduceCtorEq,false_and,exists_false,and_false,iff_false]
    split <;> simp [Response.bare]
  | some route =>
    rw [handle_found found,Step.run_map,Prod.map_fst,sent_status]
    simp only [onRoute,Option.some.injEq,exists_eq_left',← isProtected_iff,← named,ne_eq]
    by_cases options : Method.ofText request.method = .options
    · simp [options,Step.run,Response.bare]
    · rw [if_neg options]
      by_cases stranger : (route.isProtected && !server.authorized request) = true
      · rw [if_pos stranger]
        have both : route.isProtected = true ∧ server.authorized request = false := by simpa using stranger
        simp [Step.run,unauthorized,Response.json,options,both]
      · rw [if_neg stranger]
        have admitted : ¬ (server.authorized request = false ∧ ¬ Method.ofText request.method = .options ∧
            route.isProtected = true) := by
          rintro ⟨strange,-,guarded⟩
          simp [strange,guarded] at stranger
        -- Either the method is not taken, or the route performs what is asked.
        refine iff_of_false ?_ admitted
        split
        · simp [Step.run,Response.bare]
        · exact (perform_admits server now request route _).run backend state

/-! ### Own credentials -/

theorem header?_authorization {request : Request} {bytes : List UInt8} {others : List (String × List UInt8)}
    (headers : request.headers = ("Authorization",bytes) :: others) : request.header? "authorization" = some bytes := by
  have named : (lowerCase "Authorization".toList == lowerCase "authorization".toList) = true := by decide
  rw [Request.header?,headers,List.find?_cons,named]
  rfl

/-- The header that is written for the credentials of a server authorizes unless the
    username has a colon: it would be read as ending there. -/
theorem authorized_of_own_header {server : Server} {request : Request}
    (own : request.header? "authorization" = some (Utf8.encode server.credentials.header)) :
    server.authorized request = true ↔ ':' ∉ server.credentials.username.toList := by
  have text : request.headerText? "authorization" = some server.credentials.header := by
    rw [Request.headerText?,own,Option.bind_some,Credentials.visibleText?_header]
  rw [authorized,text,Option.bind_some,beq_iff_eq,Credentials.ofHeader?_header]

/-- The credentials of any settings, valid or not, in the header that is written for them
    are those of the server exactly if the username has no colon. Otherwise they are
    refused on every route that is not for everyone, and by every method but the one that
    only asks what the route takes; no other request with them is. -/
theorem own_header_admitted (settings : ServerSettings) (backendName : String) {request : Request}
    (own : request.header? "authorization" =
      some (Utf8.encode (Credentials.header ⟨settings.username,settings.password⟩))) :
    let server := ofSettings settings backendName
    (server.authorized request = true ↔ ':' ∉ settings.username.toList) ∧
      ∀ (now : Instant) {σ : Type} (backend : Backend σ) (state : σ),
        ((server.handle now request).run backend state).1.status = 401 ↔
          ':' ∈ settings.username.toList ∧ request.method ≠ "OPTIONS" ∧
            ∃ route, Route.ofPath? request.path = some route ∧ route ≠ .health := by
  intro server
  have admitted : server.authorized request = true ↔ ':' ∉ settings.username.toList := authorized_of_own_header own
  refine ⟨admitted,fun now σ backend state => ?_⟩
  rw [unauthorized_iff,← Bool.not_eq_true,admitted,Decidable.not_not]

/-- Settings of a broker without services, with some username. -/
def settingsFor (username : String) : ServerSettings :=
  ⟨"info",username,"se:cret",{ BrokerSettings.blank with region := "eu-west-1", stackPrefix := "cf" }⟩

/-- A request for the catalog with the header that is written for the settings. -/
def ownRequest (username : String) : Request :=
  ⟨"GET","/v2/catalog",[("Authorization",Utf8.encode (Credentials.header ⟨username,"se:cret"⟩))],[]⟩

theorem own_header_admitted_colonless :
    (settingsFor "team broker").validate = .ok () ∧
      (ownRequest "team broker").header? "authorization" =
        some (Utf8.encode (Credentials.header ⟨"team broker","se:cret"⟩)) ∧
      (ofSettings (settingsFor "team broker") "memory").authorized (ownRequest "team broker") = true := by
  have own : (ownRequest "team broker").header? "authorization" =
      some (Utf8.encode (Credentials.header ⟨"team broker","se:cret"⟩)) := header?_authorization rfl
  obtain ⟨admitted,-⟩ := own_header_admitted (settingsFor "team broker") "memory" own
  exact ⟨rfl,own,admitted.mpr (by decide)⟩

/-- Valid settings with a colon in the username let nobody in. -/
theorem own_header_refused_colon :
    (settingsFor "team:broker").validate = .ok () ∧
      (ownRequest "team:broker").header? "authorization" =
        some (Utf8.encode (Credentials.header ⟨"team:broker","se:cret"⟩)) ∧
      Route.ofPath? (ownRequest "team:broker").path = some .catalog ∧
      (((ofSettings (settingsFor "team:broker") "memory").handle .epoch (ownRequest "team:broker")).run
        Memory.backend .empty).1.status = 401 := by
  have own : (ownRequest "team:broker").header? "authorization" =
      some (Utf8.encode (Credentials.header ⟨"team:broker","se:cret"⟩)) := header?_authorization rfl
  have found : Route.ofPath? (ownRequest "team:broker").path = some .catalog := by decide +kernel
  refine ⟨rfl,own,found,unauthorized_iff.mpr ⟨?_,by decide,.catalog,found,by decide⟩⟩
  have admitted : (ofSettings (settingsFor "team:broker") "memory").authorized (ownRequest "team:broker") = true ↔
      ':' ∉ "team:broker".toList := authorized_of_own_header own
  rw [← Bool.not_eq_true,admitted,Decidable.not_not]
  decide

end Server
end StackBroker.Http
