import StackBroker.Proofs.Admission
import StackBroker.Proofs.Calls
import StackBroker.Proofs.Classification

/-!
How errors are answered. A request is refused by a check, before any call, or for the
failure of the one call that it makes (`Shape`, `shape_handle`, `refused_cases`); what a
failure is to the broker hangs on the kind of the request alone (`reply_of_fails`).
`ErrorAnswers` tells of every refusal and of every failure what the answer to the request
is, and `errors_answered` that every authorized request that can be read is answered so,
over every backend.
-/
namespace StackBroker.Broker
open StackBroker.Stack (Backend Call Failure Reply)

/-! ### Refusals and failures -/

/-- What a failure is to the broker. A provision expects no stack to be there. -/
def Request.refusalOf : Request → Failure → Refusal
  | .provision .. => .stack
  | _ => .ofInstance

/-- What the step of a request is: an answer without a call, which refuses at most what is
    wrong with the request itself, or the call of the request, of which nothing but a
    failure is refused. -/
inductive Shape (settings : BrokerSettings) (now : Instant) (request : Request) :
    Step (Except Refusal Response) → Prop where
  | checked {refusal : Refusal} (own : refusal.ofRequest = true) : Shape settings now request (.answer (.error refusal))
  | idle {response : Response} : Shape settings now request (.answer (.ok response))
  | called {call : Call} {resume : Reply call → Except Refusal Response} (calls : Calls settings now request call)
    (failed : ∀ failure, resume (.error failure) = .error (request.refusalOf failure))
    (done : ∀ value, ∃ response, resume (.ok value) = .ok response) : Shape settings now request (.call call resume)

theorem shape_handle (settings : BrokerSettings) (now : Instant) (request : Request) :
    Shape settings now request (handle settings now request) := by
  cases request with
  | provision instanceId details waits =>
    rw [handle,provision]
    cases allowed : provisionRequest settings now details waits with
    | error refusal => exact .checked (LooksAtRequest.provision settings now details waits refusal allowed)
    | ok asked => exact .called (.provision allowed) (fun _ => rfl) fun _ => ⟨_,rfl⟩
  | update instanceId details waits =>
    rw [handle,update]
    cases allowed : updateRequest settings details waits with
    | error refusal => exact .checked (LooksAtRequest.update settings details waits refusal allowed)
    | ok asked => exact .called (.update allowed) (fun _ => rfl) fun _ => ⟨_,rfl⟩
  | deprovision instanceId details waits =>
    rw [handle,deprovision]
    cases allowed : requireAsync waits with
    | error refusal => exact .checked (LooksAtRequest.async waits refusal allowed)
    | ok _ => exact .called (.deprovision allowed) (fun _ => rfl) fun _ => ⟨_,rfl⟩
  | bind instanceId bindingId details =>
    rw [handle,bind]
    cases allowed : bindCheck settings details with
    | error refusal => exact .checked (LooksAtRequest.binding settings details refusal allowed)
    | ok _ => exact .called (.bind allowed) (fun _ => rfl) fun _ => ⟨_,rfl⟩
  | unbind => exact .idle
  | lastOperation instanceId => exact .called .lastOperation (fun _ => rfl) fun _ => ⟨_,rfl⟩

section Replies
variable {σ : Type} {settings : BrokerSettings} {now : Instant} {request : Request} {backend : Backend σ} {state : σ}

/-- The backend fails the call that a request makes. -/
def Fails (settings : BrokerSettings) (now : Instant) (request : Request) (backend : Backend σ) (state : σ)
    (failure : Failure) : Prop :=
  ∃ call, Calls settings now request call ∧ (backend.perform call state).1 = .error failure

theorem reply_of_fails {failure : Failure} (fails : Fails settings now request backend state failure) :
    ((handle settings now request).run backend state).1 = .error (request.refusalOf failure) := by
  obtain ⟨call,calls,failed⟩ := fails
  have made := request?_handle.mpr calls
  cases handled : handle settings now request with
  | answer reply => simp [handled,Step.request?] at made
  | call other resume =>
    obtain rfl : other = call := by simpa [handled,Step.request?] using made
    have shape := shape_handle settings now request
    rw [handled] at shape
    cases shape with
    | called _ refuses _ => rw [Step.run,Prod.map_fst,failed,refuses]

/-- A request is refused by a check, without a call, or for the failure of its call. -/
theorem refused_cases {refusal : Refusal} (refused : ((handle settings now request).run backend state).1 = .error refusal) :
    (refusal.ofRequest = true ∧ (handle settings now request).request? = none) ∨
      ∃ failure, Fails settings now request backend state failure ∧ refusal = request.refusalOf failure := by
  have shape := shape_handle settings now request
  generalize handled : handle settings now request = step at shape refused
  cases shape with
  | checked own =>
    cases refused
    exact .inl ⟨own,rfl⟩
  | idle => cases refused
  | @called call resume calls refuses done =>
    rw [Step.run,Prod.map_fst] at refused
    cases replied : (backend.perform call state).1 with
    | error failure =>
      rw [replied,refuses] at refused
      exact .inr ⟨failure,⟨call,calls,replied⟩,(Except.error.inj refused).symm⟩
    | ok value =>
      obtain ⟨response,granted⟩ := done value
      rw [replied,granted] at refused
      cases refused

end Replies
end StackBroker.Broker

namespace StackBroker.Json

/-- A record is not written with a name that none of its fields has. -/
theorem lookup_members {α : Type} {fields : List (Field α)} {name : String}
    (absent : ∀ field ∈ fields, field.name ≠ name) (record : α) : (Record.members fields record).lookup name = none := by
  rw [List.lookup_eq_none_iff]
  intro pair member
  obtain ⟨field,listed,written⟩ := List.mem_filterMap.mp member
  obtain ⟨value,-,rfl⟩ := Option.map_eq_some_iff.mp written
  exact bne_iff_ne.mpr (absent field listed).symm

end StackBroker.Json

namespace StackBroker.Http
open StackBroker.Broker (Calls Fails Refusal Step)
open StackBroker.Stack (Backend Call Failure)

/-! ### Documents of answers -/

/-- A member of the document in the body of an answer. -/
def Response.member? (response : Response) (name : String) : Option Json :=
  match response.body with
  | .json (.object members) => members.lookup name
  | _ => none

/-- An answer has a status, and describes its cause in some words. -/
structure Describes (status : Nat) (words : String) (answer : Response) : Prop where
  status : answer.status = status
  words : answer.member? "description" = some (.string words)

theorem describes_refused (refusal : Refusal) : Describes (refusalStatus refusal) refusal.message (refused refusal) := by
  refine ⟨rfl,?_⟩
  cases refusal <;> rfl

theorem error_refused {refusal : Refusal} :
    (refused refusal).member? "error" = (refusalCode refusal).map Json.string := by
  cases refusal <;> rfl

theorem error_granted (response : Broker.Response) : (Server.grantedAnswer response).member? "error" = none := by
  have absent {α : Type} {fields : List (Json.Field α)} (names : ∀ field ∈ fields, field.name ≠ "error") (record : α) :=
    Json.lookup_members names record
  cases response with
  | provisioned response => exact absent (by decide) response
  | updated response | deprovisioned response => rfl
  | bound response => exact absent (by decide) response
  | unbound => rfl
  | lastOperation response => exact absent (by decide) response

namespace Server

/-! ### Answers to errors -/

theorem error_refusedAnswer {asked : Broker.Request} {refusal : Refusal} :
    (refusedAnswer asked refusal).member? "error" = (refusalCode refusal).map Json.string := by
  rcases refusedAnswer_cases asked refusal with plain | ⟨rfl,gone⟩
  · rw [plain,error_refused]
  · rw [gone]
    rfl

theorem describes_refusedAnswer {asked : Broker.Request} {refusal : Refusal} (other : refusal ≠ .instanceDoesNotExist) :
    Describes (refusalStatus refusal) refusal.message (refusedAnswer asked refusal) := by
  rcases refusedAnswer_cases asked refusal with plain | ⟨missing,-⟩
  · exact plain ▸ describes_refused refusal
  · exact absurd missing other

/-- The answer where the backend says that there is no such stack: nothing is left to be
    removed or told of, there is nothing to be changed or bound to, and a provision has
    failed as it may fail for any other reason. -/
def AnswersMissing : Broker.Request → Response → Prop
  | .deprovision .., answer | .lastOperation _, answer => answer.status = 410 ∧ answer.body = .json (.object [])
  | .update .., answer | .bind .., answer => Describes 404 "instance does not exist" answer
  | .provision .., answer => Describes 500 "cloudformation stack does not exist" answer
  | .unbind .., _ => False

/-- How a request is answered that a broker refuses for some reason, or whose call fails
    in some way, and how the answer tells the reason. -/
structure ErrorAnswers (asked : Broker.Request) (calls : Call → Prop) (fails : Failure → Prop) (refuses : Refusal → Prop)
    (answer : Response) : Prop where
  asyncRequired : refuses .asyncRequired → Describes 422 Refusal.asyncRequired.message answer
  instanceNotUpdateable : refuses .instanceNotUpdateable → Describes 422 Refusal.instanceNotUpdateable.message answer
  instanceNotBindable : refuses .instanceNotBindable → Describes 422 Refusal.instanceNotBindable.message answer
  serviceNotFound : ∀ id, refuses (.serviceNotFound id) → Describes 400 (Refusal.serviceNotFound id).message answer
  planNotFound : ∀ id, refuses (.planNotFound id) → Describes 400 (Refusal.planNotFound id).message answer
  invalidParameters : ∀ reason, refuses (.invalidParameters reason) →
    Describes 400 (Refusal.invalidParameters reason).message answer
  missing : fails .doesNotExist → AnswersMissing asked answer
  failed : ∀ failure, failure ≠ .doesNotExist → fails failure → Describes 500 failure.message answer
  verbatim : ∀ message, fails (.refused message) ∨ fails (.unstarted message) → Describes 500 message answer
  /-- Nothing else is refused: what a check refuses is answered without a call. -/
  causes : ∀ refusal, refuses refusal → (refusal.ofRequest = true ∧ ∀ call, ¬ calls call) ∨ ∃ failure, fails failure
  coded : ∀ code, answer.member? "error" = some code ↔ refuses .asyncRequired ∧ code = .string "AsyncRequired"
  described : ∀ refusal, refuses refusal → answer.status ≠ 410 →
    answer.member? "description" = some (.string refusal.message)
  gone : answer.status = 410 → fails .doesNotExist
  granted : (∀ refusal, ¬ refuses refusal) → answer.status ∈ [200,201,202]
  unbind : ∀ id bindingId details, asked = .unbind id bindingId details →
    (∀ call, ¬ calls call) ∧ (∀ refusal, ¬ refuses refusal) ∧ answer.status = 200 ∧ answer.body = .json (.object [])

theorem refusalOf_eq_stack {failure : Failure} (known : failure ≠ .doesNotExist) (asked : Broker.Request) :
    asked.refusalOf failure = .stack failure := by
  have passed : Refusal.ofInstance failure = .stack failure := by
    cases failure with
    | doesNotExist => exact absurd rfl known
    | refused | unstarted | unreadable => rfl
  cases asked with
  | provision => rfl
  | update | deprovision | bind | unbind | lastOperation => exact passed

theorem refusalOf_eq_instanceDoesNotExist {asked : Broker.Request} {failure : Failure}
    (missing : asked.refusalOf failure = .instanceDoesNotExist) : failure = .doesNotExist := by
  cases asked with
  | provision => cases missing
  | update | deprovision | bind | unbind | lastOperation => exact Refusal.ofInstance_eq_instanceDoesNotExist.mp missing

section Answers
variable {σ : Type} {settings : BrokerSettings} {now : Instant} {asked : Broker.Request} {backend : Backend σ} {state : σ}

theorem answersMissing (fails : Fails settings now asked backend state .doesNotExist) :
    AnswersMissing asked (refusedAnswer asked (asked.refusalOf .doesNotExist)) := by
  cases asked with
  | deprovision | lastOperation => exact ⟨rfl,rfl⟩
  | update | bind => exact describes_refused .instanceDoesNotExist
  | provision => exact describes_refused (.stack .doesNotExist)
  | unbind =>
    obtain ⟨call,calls,-⟩ := fails
    cases calls

theorem fails_of_gone (gone : (answerTo asked ((Broker.handle settings now asked).run backend state).1).status = 410) :
    Fails settings now asked backend state .doesNotExist := by
  cases replied : ((Broker.handle settings now asked).run backend state).1 with
  | ok response =>
    rw [replied] at gone
    exact absurd gone (grantedAnswer_status_ne (by decide) response)
  | error refusal =>
    rw [replied,answerTo,respond] at gone
    rcases refusedAnswer_cases asked refusal with plain | ⟨rfl,-⟩
    · have status : refusalStatus refusal ≠ 410 := by cases refusal <;> simp [refusalStatus]
      rw [plain] at gone
      exact absurd gone status
    · -- No check refuses that an instance is missing, so its stack was missing to the call.
      rcases Broker.refused_cases replied with ⟨own,-⟩ | ⟨failure,fails,same⟩
      · cases own
      · rwa [refusalOf_eq_instanceDoesNotExist same.symm] at fails

/-- A request is answered so, whatever the broker replies to it. -/
theorem errorAnswers (settings : BrokerSettings) (now : Instant) (asked : Broker.Request) (backend : Backend σ) (state : σ) :
    ErrorAnswers asked (Calls settings now asked) (Fails settings now asked backend state)
    (fun refusal => ((Broker.handle settings now asked).run backend state).1 = .error refusal)
    (answerTo asked ((Broker.handle settings now asked).run backend state).1) := by
  have described (refusal : Refusal) (other : refusal ≠ .instanceDoesNotExist)
      (refused : ((Broker.handle settings now asked).run backend state).1 = .error refusal) :
      Describes (refusalStatus refusal) refusal.message
        (answerTo asked ((Broker.handle settings now asked).run backend state).1) := by
    rw [refused]
    exact describes_refusedAnswer other
  have failed (failure : Failure) (known : failure ≠ .doesNotExist)
      (fails : Fails settings now asked backend state failure) :
      Describes 500 failure.message (answerTo asked ((Broker.handle settings now asked).run backend state).1) :=
    described (.stack failure) (by simp) (by rw [Broker.reply_of_fails fails,refusalOf_eq_stack known])
  exact {
    asyncRequired := described _ (by simp)
    instanceNotUpdateable := described _ (by simp)
    instanceNotBindable := described _ (by simp)
    serviceNotFound := fun id => described _ (by simp)
    planNotFound := fun id => described _ (by simp)
    invalidParameters := fun reason => described _ (by simp)
    missing := by
      intro fails
      rw [Broker.reply_of_fails fails]
      exact answersMissing fails
    failed := failed
    verbatim := by
      rintro message (fails | fails)
      · exact failed (.refused message) (by simp) fails
      · exact failed (.unstarted message) (by simp) fails
    causes := by
      intro refusal refused
      rcases Broker.refused_cases refused with ⟨own,silent⟩ | ⟨failure,fails,-⟩
      · refine .inl ⟨own,fun call calls => ?_⟩
        rw [Broker.request?_handle.mpr calls] at silent
        cases silent
      · exact .inr ⟨failure,fails⟩
    coded := by
      intro code
      cases replied : ((Broker.handle settings now asked).run backend state).1 with
      | ok response => simp [answerTo,respond,error_granted]
      | error refusal =>
        rw [answerTo,respond,error_refusedAnswer]
        cases refusal <;> simp [refusalCode,eq_comm]
    described := by
      intro refusal refused present
      rw [refused] at present ⊢
      rcases refusedAnswer_cases asked refusal with plain | ⟨-,gone⟩
      · rw [answerTo,respond,plain]
        exact (describes_refused refusal).words
      · exact absurd (congrArg Response.status gone) present
    gone := fails_of_gone
    granted := by
      intro granted
      cases replied : ((Broker.handle settings now asked).run backend state).1 with
      | ok response => exact grantedAnswer_status response
      | error refusal => exact absurd replied (granted refusal)
    unbind := by
      rintro id bindingId details rfl
      refine ⟨?_,?_,rfl,rfl⟩
      · intro call calls
        cases calls
      · intro refusal refused
        cases refused }

end Answers

section Requests
variable {server : Server} {request : Request} {route : Route} {asked : Broker.Request}
  (authorized : server.authorized request = true) (found : Route.ofPath? request.path = some route)
  (supported : Method.ofText request.method ∈ route.methods)
  (carries : Carries request route (Method.ofText request.method) asked)
include authorized found supported carries

theorem run_carried (now : Instant) {σ : Type} (backend : Backend σ) (state : σ) :
    ((server.handle now request).run backend state).1 = sent (Method.ofText request.method)
      (answerTo asked ((Broker.handle server.settings now asked).run backend state).1) := by
  rw [handle_carried authorized found supported (asked_of_carries carries),Step.run_map,Step.run_map]
  rfl

/-- An authorized request that can be read makes the call of the request to the broker that
    it carries. Over every backend it is answered by what the broker refuses or the backend
    fails, as it is sent: an answer to a request for its head alone has no body. -/
theorem errors_answered (now : Instant) {σ : Type} (backend : Backend σ) (state : σ) :
    (∀ call, (server.handle now request).request? = some call ↔ Calls server.settings now asked call) ∧
      ∃ whole, ((server.handle now request).run backend state).1 = sent (Method.ofText request.method) whole ∧
        ErrorAnswers asked (Calls server.settings now asked) (Fails server.settings now asked backend state)
          (fun refusal => ((Broker.handle server.settings now asked).run backend state).1 = .error refusal) whole := by
  refine ⟨fun call => ?_,_,run_carried authorized found supported carries now backend state,errorAnswers ..⟩
  rw [handle_carried authorized found supported (asked_of_carries carries),Step.request?_map,Step.request?_map,
    Broker.request?_handle]

end Requests

/-- A backend that fails every call in the same way. -/
def faulty (failure : Failure) : Backend Unit := ⟨"faulty",fun _ state => (.error failure,state)⟩

/-- A request to remove an instance. -/
def dismissal : Request :=
  ⟨"DELETE","/v2/service_instances/i?accepts_incomplete=true",
    [("Authorization",Utf8.encode (Credentials.header sample.credentials))],[]⟩

theorem errors_answered_dismissal :
    sample.authorized dismissal = true ∧ Route.ofPath? dismissal.path = some (.serviceInstance ['i']) ∧
      Carries dismissal (.serviceInstance ['i']) .delete (.deprovision "i" ⟨"",""⟩ true) ∧
      ((sample.handle .epoch dismissal).run (faulty .doesNotExist) ()).1.status = 410 ∧
      ((sample.handle .epoch dismissal).run (faulty (.refused "no")) ()).1.status = 500 := by
  have authorized : sample.authorized dismissal = true :=
    (authorized_of_own_header (header?_authorization rfl)).mpr (by decide)
  have found : Route.ofPath? dismissal.path = some (.serviceInstance ['i']) := by decide +kernel
  have carries : Carries dismissal (.serviceInstance ['i']) .delete (.deprovision "i" ⟨"",""⟩ true) :=
    .deprovision (by decide +kernel) (acceptsIncomplete_eq_true.mpr (by decide +kernel)) rfl rfl
  have fails (failure : Failure) : Fails sample.settings .epoch (.deprovision "i" ⟨"",""⟩ true) (faulty failure) () failure :=
    ⟨_,.deprovision rfl,rfl⟩
  obtain ⟨-,gone,sentGone,missing⟩ := errors_answered authorized found (.tail _ (.tail _ (.head _))) carries .epoch
    (faulty .doesNotExist) ()
  obtain ⟨-,failed,sentFailed,other⟩ := errors_answered authorized found (.tail _ (.tail _ (.head _))) carries .epoch
    (faulty (.refused "no")) ()
  refine ⟨authorized,found,carries,?_,?_⟩
  · rw [sentGone,sent_status]
    exact (missing.missing (fails .doesNotExist)).1
  · rw [sentFailed,sent_status]
    exact (other.verbatim "no" (.inl (fails _))).status

end Server
end StackBroker.Http
