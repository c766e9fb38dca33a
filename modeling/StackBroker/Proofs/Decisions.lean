import StackBroker.Proofs.Conditions
import StackBroker.Proofs.ErrorAnswers
import StackBroker.Proofs.Gates

/-!
How requests are decided. What is checked of a request is listed in the order of the checks
(`Request.conditions`), each check tells its conditions (`Parameters.tells`, `provision_tells`,
`update_tells`, `deprovision_tells`, `bind_tells`), and so a request is refused for the first that
is not met (`handle_of_firstUnmet`) and makes its call exactly if all are (`exists_calls_iff`).
Calls are counted over a backend that keeps them (`Backend.logged`): whatever that backend
answers, a request makes at most one call, on the stack of its instance, and is granted exactly
if all conditions are met and the call is a success (`decided_in_order`).
-/
namespace StackBroker

/-! ### The first service with an id -/

/-- A service has an id, and no service before it has. -/
def FirstService (catalog : Catalog) (id : String) (service : Service) : Prop :=
  ∃ earlier later, catalog.services = earlier ++ service :: later ∧ (∀ other ∈ earlier, other.id ≠ id) ∧ service.id = id

theorem Catalog.findService?_eq_some_iff_first {catalog : Catalog} {id : String} {service : Service} :
    catalog.findService? id = some service ↔ FirstService catalog id service := find?_named_eq_some_iff

/-! ### Parameters -/

namespace Parameters

/-- An entry of parameters holds a string. -/
def entryCondition (entry : String × Json) : Condition BadParameters :=
  ⟨∃ text, entry.2 = .string text,.notString entry.1 entry.2.kind⟩

/-- What parameters have to meet: if there are any they are an object, of which every entry, in
    the order of the keys, holds a string. -/
def conditions : Option Json → List (Condition BadParameters)
  | none | some .null => []
  | some (.object members) => (StringMap.ofList members).entries.map entryCondition
  | some value => [⟨False,.notObject value.kind⟩]

theorem tells_entries (entries : List (String × Json)) :
    Tells (entries.map entryCondition) (decodeEntries entries) := by
  induction entries with
  | nil => exact .ok []
  | cons head rest ih =>
    obtain ⟨name,value⟩ := head
    rw [List.map_cons]
    cases value with
    | string text => exact .skip ⟨text,rfl⟩ (ih.map ((name,text) :: ·))
    | null | bool | number | array | object =>
      exact .of_error rfl (firstUnmet_cons.mpr (.inl ⟨by simp [entryCondition],rfl⟩))

theorem tells (raw : Option Json) : Tells (conditions raw) (decode raw) := by
  cases raw with
  | none => exact .ok StringMap.empty
  | some value =>
    cases value with
    | null => exact .ok StringMap.empty
    | object members => exact (tells_entries _).map StringMap.ofList
    | bool | number | string | array => exact .single False.elim fun _ => rfl

end Parameters
end StackBroker

namespace StackBroker.Stack

/-! ### Counted calls -/

variable {σ : Type}

/-- A backend that keeps the calls that are made on it, in their order. -/
def Backend.logged (backend : Backend σ) : Backend (σ × List Call) where
  name := backend.name
  perform call state := ((backend.perform call state.1).1,((backend.perform call state.1).2,state.2 ++ [call]))

end StackBroker.Stack

namespace StackBroker.Broker
open StackBroker.Stack (Action Backend Call Details)

/-- A step is run as without the log, to which it adds the call that it makes. -/
theorem Step.run_logged {α σ : Type} (step : Step α) (backend : Backend σ) (state : σ) (log : List Call) :
    step.run backend.logged (state,log) =
      ((step.run backend state).1,((step.run backend state).2,log ++ step.request?.toList)) := by
  cases step with
  | answer value => simp [Step.run,Step.request?]
  | call request resume => rfl

/-! ### Conditions of requests -/

/-- The caller waits. -/
def waiting (waits : Bool) : Condition Refusal := ⟨waits = true,.asyncRequired⟩

/-- Where callers may set parameters, theirs can be read. -/
def readable (allowed : Bool) (raw : Option Json) : List (Condition Refusal) :=
  if allowed then (Parameters.conditions raw).map (Condition.relay .invalidParameters) else []

/-- A service with the id is on offer. -/
def serviceOffered (settings : BrokerSettings) (id : String) : Condition Refusal :=
  ⟨∃ service ∈ settings.catalog.services, service.id = id,.serviceNotFound id⟩

/-- The first service with the id lets the request through. -/
def lets (settings : BrokerSettings) (gate : Service → Bool) (refusal : Refusal) (id : String) : Condition Refusal :=
  ⟨∀ service, FirstService settings.catalog id service → gate service = true,refusal⟩

/-- A plan with the id is on offer, of whatever service. -/
def planOffered (settings : BrokerSettings) (id : String) : Condition Refusal :=
  ⟨∃ service ∈ settings.catalog.services, ∃ plan ∈ service.plans, plan.id = id,.planNotFound id⟩

/-- What is checked of a request, in the order of the checks. -/
def Request.conditions (settings : BrokerSettings) : Request → List (Condition Refusal)
  | .provision _ details waits =>
    waiting waits :: (readable settings.allowProvisionParameters details.parameters ++
      [planOffered settings details.planId])
  | .update _ details waits =>
    waiting waits :: (readable settings.allowUpdateParameters details.parameters ++ [
      serviceOffered settings details.serviceId,
      lets settings Service.planUpdateable .instanceNotUpdateable details.serviceId,
      planOffered settings details.planId])
  | .deprovision _ _ waits => [waiting waits]
  | .bind _ _ details => [
    serviceOffered settings details.serviceId,
    lets settings Service.bindable .instanceNotBindable details.serviceId]
  | .unbind .. | .lastOperation _ => []

/-- What a request does with the stack of its instance, if anything. -/
def Request.action? : Request → Option Action
  | .provision .. => some .create
  | .update .. => some .modify
  | .deprovision .. => some .delete
  | .bind .. | .lastOperation _ => some .describe
  | .unbind .. => none

/-! ### Checks tell their conditions -/

section Checks
variable (settings : BrokerSettings)

theorem tells_waiting (waits : Bool) : Tells [waiting waits] (requireAsync waits) := by
  cases waits with
  | false => exact .single (fun met => by cases met) fun _ => rfl
  | true => exact .single (fun _ => ⟨(),rfl⟩) fun unmet => absurd rfl unmet

theorem tells_readable (allowed : Bool) (raw : Option Json) : Tells (readable allowed raw) (callerParameters allowed raw) := by
  cases allowed with
  | false => exact .ok StringMap.empty
  | true => exact (Parameters.tells raw).mapError Refusal.invalidParameters

theorem tells_service (id : String) : Tells [serviceOffered settings id] (requireService settings id) := by
  have offered : (serviceOffered settings id).met ↔ ∃ service, settings.catalog.findService? id = some service := by
    rw [serviceOffered,← Option.isSome_iff_exists,Catalog.findService?,List.find?_isSome]
    simp
  unfold requireService
  refine .search offered (fun service found => ⟨service,by rw [found]⟩) fun missing => ?_
  rw [missing]
  rfl

theorem tells_plan (id : String) : Tells [planOffered settings id] (requirePlan settings id) := by
  unfold requirePlan
  refine .search Catalog.isSome_findPlan?.symm (fun plan found => ⟨plan,by rw [found]⟩) fun missing => ?_
  rw [missing]
  rfl

theorem find?_of_requireService {id : String} {service : Service} (came : requireService settings id = .ok service) :
    settings.catalog.findService? id = some service := by
  unfold requireService at came
  split at came
  · rename_i found
    rw [found,Except.ok.inj came]
  · cases came

/-- A gate of the service that was found is a condition on the first service with the id. -/
theorem tells_lets {gate : Service → Bool} {refusal : Refusal} {id : String} {service : Service}
    {check : Except Refusal Unit} (came : requireService settings id = .ok service)
    (gated : check = if gate service then .ok () else .error refusal) :
    Tells [lets settings gate refusal id] check := by
  have found := find?_of_requireService settings came
  have first : (lets settings gate refusal id).met ↔ gate service = true := by
    simp only [lets,← Catalog.findService?_eq_some_iff_first,found,Option.some.injEq,forall_eq']
  by_cases passes : gate service = true
  · exact .single (fun _ => ⟨(),by rw [gated,if_pos passes]⟩) fun unmet => absurd (first.mpr passes) unmet
  · exact .single (fun met => absurd (first.mp met) passes) fun _ => by rw [gated,if_neg passes]; rfl

variable (now : Instant) (instanceId bindingId : String) (waits : Bool)

theorem provision_tells (details : ProvisionDetails) :
    Tells (Request.conditions settings (.provision instanceId details waits))
      (provisionRequest settings now details waits) := by
  refine .cons (tells_waiting waits) fun _ _ _ => .bind (tells_readable _ details.parameters) fun parameters _ => ?_
  exact .cons (tells_plan settings details.planId) fun _ _ _ => .ok _

theorem update_tells (details : UpdateDetails) :
    Tells (Request.conditions settings (.update instanceId details waits)) (updateRequest settings details waits) := by
  refine .cons (tells_waiting waits) fun _ _ _ => .bind (tells_readable _ details.parameters) fun parameters _ => ?_
  refine .cons (tells_service settings details.serviceId) fun service came _ => ?_
  refine .cons (tells_lets settings came rfl) fun _ _ _ => ?_
  exact .cons (tells_plan settings details.planId) fun _ _ _ => .ok _

theorem deprovision_tells (details : DeprovisionDetails) :
    Tells (Request.conditions settings (.deprovision instanceId details waits)) (requireAsync waits) :=
  tells_waiting waits

theorem bind_tells (details : BindDetails) :
    Tells (Request.conditions settings (.bind instanceId bindingId details)) (bindCheck settings details) :=
  .cons (tells_service settings details.serviceId) fun _ came _ => tells_lets settings came rfl

end Checks

/-! ### Decisions -/

section Decisions
variable {settings : BrokerSettings} {now : Instant} {request : Request}

/-- A request is refused at once for the first condition that is not met. -/
theorem handle_of_firstUnmet {refusal : Refusal} (first : FirstUnmet (request.conditions settings) refusal) :
    handle settings now request = .answer (.error refusal) := by
  cases request with
  | provision instanceId details waits =>
    have refused := (provision_tells settings now instanceId waits details).eq_error_iff.mpr first
    rw [handle,provision,refused]
    rfl
  | update instanceId details waits =>
    have refused := (update_tells settings instanceId waits details).eq_error_iff.mpr first
    rw [handle,update,refused]
    rfl
  | deprovision instanceId details waits =>
    have refused := (deprovision_tells settings instanceId waits details).eq_error_iff.mpr first
    rw [handle,deprovision,refused]
    rfl
  | bind instanceId bindingId details =>
    have refused := (bind_tells settings instanceId bindingId details).eq_error_iff.mpr first
    rw [handle,bind,refused]
    rfl
  | unbind | lastOperation => exact absurd first (not_firstUnmet_nil refusal)

/-- The call that a request makes does what a request of its kind does, on the stack of its
    instance, once all conditions are met. -/
theorem Calls.decided {call : Call} (calls : Calls settings now request call) :
    AllMet (request.conditions settings) ∧ request.action? = some call.action ∧
      call.target = settings.stackPrefix ++ "-" ++ request.instanceId := by
  cases calls with
  | @provision instanceId details waits _ allowed =>
    exact ⟨(provision_tells settings now instanceId waits details).passed _ allowed,rfl,rfl⟩
  | @update instanceId details waits _ allowed =>
    exact ⟨(update_tells settings instanceId waits details).passed _ allowed,rfl,rfl⟩
  | @deprovision instanceId details waits allowed =>
    exact ⟨(deprovision_tells settings instanceId waits details).passed _ allowed,rfl,rfl⟩
  | @bind instanceId bindingId details allowed =>
    exact ⟨(bind_tells settings instanceId bindingId details).passed _ allowed,rfl,rfl⟩
  | lastOperation => exact ⟨allMet_nil,rfl,rfl⟩

theorem exists_calls_iff :
    (∃ call, Calls settings now request call) ↔ AllMet (request.conditions settings) ∧ request.action?.isSome = true := by
  constructor
  · rintro ⟨call,calls⟩
    obtain ⟨all,acts,-⟩ := calls.decided
    exact ⟨all,by rw [acts]; rfl⟩
  · rintro ⟨all,acts⟩
    cases request with
    | provision instanceId details waits =>
      obtain ⟨asked,allowed⟩ := (provision_tells settings now instanceId waits details).exists_eq_ok_iff.mpr all
      exact ⟨_,.provision allowed⟩
    | update instanceId details waits =>
      obtain ⟨asked,allowed⟩ := (update_tells settings instanceId waits details).exists_eq_ok_iff.mpr all
      exact ⟨_,.update allowed⟩
    | deprovision instanceId details waits =>
      exact ⟨_,.deprovision ((deprovision_tells settings instanceId waits details).eq_ok_iff.mpr all)⟩
    | bind instanceId bindingId details =>
      exact ⟨_,.bind ((bind_tells settings instanceId bindingId details).eq_ok_iff.mpr all)⟩
    | unbind => cases acts
    | lastOperation => exact ⟨_,.lastOperation⟩

variable {σ : Type} {backend : Backend σ} {state : σ}

/-- A request is granted exactly if all conditions are met and its call, if it makes one, is a success. -/
theorem granted_iff : (∃ response, ((handle settings now request).run backend state).1 = .ok response) ↔
    AllMet (request.conditions settings) ∧
      ∀ call, Calls settings now request call → ∃ value, (backend.perform call state).1 = .ok value := by
  constructor
  · rintro ⟨response,granted⟩
    constructor
    · by_cases all : AllMet (request.conditions settings)
      · exact all
      · obtain ⟨refusal,first⟩ := exists_firstUnmet all
        rw [handle_of_firstUnmet first] at granted
        cases granted
    · intro call calls
      cases replied : (backend.perform call state).1 with
      | ok value => exact ⟨value,rfl⟩
      | error failure =>
        rw [reply_of_fails ⟨call,calls,replied⟩] at granted
        cases granted
  · rintro ⟨all,succeed⟩
    cases replied : ((handle settings now request).run backend state).1 with
    | ok response => exact ⟨response,rfl⟩
    | error refusal =>
      -- A failure of the call is ruled out, and without a call there is nothing left to refuse.
      rcases refused_cases replied with ⟨-,silent⟩ | ⟨failure,⟨call,calls,failed⟩,-⟩
      · have none : ¬ request.action?.isSome = true := by
          intro acts
          obtain ⟨call,calls⟩ := exists_calls_iff.mpr ⟨all,acts⟩
          rw [request?_handle.mpr calls] at silent
          cases silent
        cases request with
        | unbind => cases replied
        | provision | update | deprovision | bind | lastOperation => exact absurd rfl none
      · obtain ⟨value,succeeded⟩ := succeed call calls
        rw [failed] at succeeded
        cases succeeded

end Decisions

/-- How a request is decided: its reply, and the calls that were made for it on a backend that
    was in some state. -/
structure Decided {σ : Type} (settings : BrokerSettings) (request : Request) (backend : Backend σ) (state : σ)
    (reply : Except Refusal Response) (calls : List Call) : Prop where
  atMostOne : calls.length ≤ 1
  named : ∀ call ∈ calls, call.target = settings.stackPrefix ++ "-" ++ request.instanceId
  kind : ∀ call ∈ calls, request.action? = some call.action
  made : (∃ call, call ∈ calls) ↔ AllMet (request.conditions settings) ∧ request.action?.isSome = true
  refused : ∀ refusal, FirstUnmet (request.conditions settings) refusal → reply = .error refusal
  granted : (∃ response, reply = .ok response) ↔ AllMet (request.conditions settings) ∧
    ∀ call ∈ calls, ∃ value, (backend.perform call state).1 = .ok value
  /-- What is made or changed is asked for by the first plan with the id. -/
  planned : ∀ call ∈ calls, ∀ name asked, Asks name asked call → ∃ planId plan parameters,
    request.planId? = some planId ∧ FirstPlan settings.catalog planId plan ∧
      { asked with tags := .empty } = planDetails plan parameters
  untagged : ∀ name asked, .modify name asked ∈ calls → asked.tags = .empty

theorem decided_handle (settings : BrokerSettings) (now : Instant) (request : Request) {σ : Type} (backend : Backend σ)
    (state : σ) : Decided settings request backend state ((handle settings now request).run backend state).1
      (handle settings now request).request?.toList := by
  have member (call : Call) :
      call ∈ (handle settings now request).request?.toList ↔ Calls settings now request call := by
    rw [Option.mem_toList,request?_handle]
  exact {
    atMostOne := by cases (handle settings now request).request? <;> simp
    named := fun call made => ((member call).mp made).decided.2.2
    kind := fun call made => ((member call).mp made).decided.2.1
    made := by simp only [member,exists_calls_iff]
    refused := by
      intro refusal first
      rw [handle_of_firstUnmet first]
      rfl
    granted := by simp only [member,granted_iff]
    planned := by
      intro call made name asked asks
      obtain ⟨-,planId,plan,parameters,names,first,-,built⟩ := calls_built ((member call).mp made) asks
      exact ⟨planId,plan,parameters,names,first,built⟩
    untagged := by
      intro name asked made
      cases (member _).mp made with
      | update allowed =>
        obtain ⟨-,parameters,service,plan,-,-,-,-,rfl⟩ := updateRequest_eq_ok.mp allowed
        rfl }

/-- The catalog is shown, or refused to strangers, without a call. -/
theorem catalog_silent {server : Http.Server} {now : Instant} {request : Http.Request}
    (found : Http.Route.ofPath? request.path = some .catalog) : (server.handle now request).request? = none := by
  rw [Http.Server.handle_found found,Step.request?_map]
  simp only [Http.Server.onRoute]
  split
  · rfl
  · split
    · rfl
    · split <;> rfl

/-- Over every backend a request is decided by its conditions in their order, and then by the one
    call that it makes. The catalog is shown without a call. -/
theorem decided_in_order (settings : BrokerSettings) (now : Instant) {σ : Type} (backend : Backend σ) (state : σ) :
    (∀ request, ∃ reply next calls,
      (handle settings now request).run backend state = (reply,next) ∧
      (handle settings now request).run backend.logged (state,[]) = (reply,(next,calls)) ∧
      Decided settings request backend state reply calls) ∧
    ∀ (server : Http.Server) (request : Http.Request), Http.Route.ofPath? request.path = some .catalog →
      ((server.handle now request).run backend.logged (state,[])).2 = (state,[]) := by
  constructor
  · intro request
    exact ⟨_,((handle settings now request).run backend state).2,_,rfl,Step.run_logged _ backend state [],
      decided_handle settings now request backend state⟩
  · intro server request found
    have silent : (server.handle now request).request? = none := catalog_silent found
    rw [Step.run_logged,silent]
    cases step : server.handle now request with
    | answer value => rfl
    | call call resume =>
      rw [step] at silent
      cases silent

/-- Settings that let callers set the parameters of updates. -/
def lenientSettings : BrokerSettings := { sampleSettings with allowUpdateParameters := true }

/-- An update that is wrong in three ways is refused for the first, whatever the backend would have
    answered; and a provision that is right fails with its call. -/
theorem decided_in_order_wrong :
    let wrong := Request.update "i" ⟨"queue","tiny",some (.object [("size",.bool true)]),none⟩ true
    let right := Request.provision "i" ⟨"db","large","","",none⟩ true
    ((handle lenientSettings .epoch wrong).run (Http.Server.faulty (.refused "no")).logged ((),[])) =
        (.error (.invalidParameters (.notString "size" .boolean)),((),[])) ∧
      (∃ refusal, ((handle lenientSettings .epoch right).run (Http.Server.faulty (.refused "no")) ()).1 = .error refusal) ∧
      ((Http.Server.sample.handle .epoch ⟨"GET","/v2/catalog",[],[]⟩).run
        (Http.Server.faulty (.refused "no")).logged ((),[])).2 = ((),[]) := by
  intro wrong right
  obtain ⟨decided,shown⟩ := decided_in_order lenientSettings .epoch (Http.Server.faulty (.refused "no")) ()
  refine ⟨?_,?_,shown Http.Server.sample ⟨"GET","/v2/catalog",[],[]⟩ (by decide +kernel)⟩
  · obtain ⟨reply,next,calls,-,logged,decides⟩ := decided wrong
    have first : FirstUnmet (wrong.conditions lenientSettings) (.invalidParameters (.notString "size" .boolean)) := by
      refine firstUnmet_cons.mpr (.inr ⟨rfl,firstUnmet_append.mpr (.inl (firstUnmet_cons.mpr (.inl ⟨?_,rfl⟩)))⟩)
      rintro ⟨text,string⟩
      cases string
    have silent : calls = [] := by
      rw [List.eq_nil_iff_forall_not_mem]
      intro call made
      exact first.not_allMet (decides.made.mp ⟨call,made⟩).1
    rw [logged,decides.refused _ first,silent]
  · obtain ⟨reply,next,calls,ran,-,decides⟩ := decided right
    rw [ran]
    cases reply with
    | error refusal => exact ⟨refusal,rfl⟩
    | ok response =>
      obtain ⟨all,succeed⟩ := decides.granted.mp ⟨response,rfl⟩
      obtain ⟨call,made⟩ := decides.made.mpr ⟨all,rfl⟩
      obtain ⟨value,succeeded⟩ := succeed call made
      cases succeeded

end StackBroker.Broker
