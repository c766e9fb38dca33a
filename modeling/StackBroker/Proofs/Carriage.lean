import StackBroker.Proofs.Documents
import StackBroker.Proofs.Exchange
import StackBroker.Proofs.Scanning
import StackBroker.Proofs.Targets

/-!
Requests as callers write them. A target with encoded ids is on its route and says in its
query what was written there (`found_instance`, `acceptsIncomplete_waiting`), and a body
that is declared as JSON is read as the details that it was written from
(`bodyDocument_of_body`), if their parameters are strings or missing. Such a request does
what the operation with these ids and details does (`faithful`): it makes the same call,
leaves the same state on every backend, and is answered with what the operation answers.
-/
namespace StackBroker.Broker.Step
variable {α : Type}

/-! ### Steps that grant one thing -/

/-- All that a step grants is some value. -/
def Grants (value : α) : Step (Except Refusal α) → Prop
  | .answer reply => ∀ granted, reply = .ok granted → granted = value
  | .call _ resume => ∀ reply granted, resume reply = .ok granted → granted = value

end StackBroker.Broker.Step

namespace StackBroker.Broker

theorem provision_grants (settings : BrokerSettings) (now : Instant) (id : String) (details : ProvisionDetails)
    (waits : Bool) : (provision settings now id details waits).Grants ⟨none,true⟩ := by
  unfold provision
  cases provisionRequest settings now details waits with
  | error refusal => exact nofun
  | ok request =>
    intro reply granted same
    cases reply <;> cases same
    rfl

theorem update_grants (settings : BrokerSettings) (id : String) (details : UpdateDetails) (waits : Bool) :
    (update settings id details waits).Grants ⟨true⟩ := by
  unfold update
  cases updateRequest settings details waits with
  | error refusal => exact nofun
  | ok request =>
    intro reply granted same
    cases reply <;> cases same
    rfl

theorem deprovision_grants (settings : BrokerSettings) (id : String) (waits : Bool) :
    (deprovision settings id waits).Grants ⟨true⟩ := by
  unfold deprovision
  cases requireAsync waits with
  | error refusal => exact nofun
  | ok _ =>
    intro reply granted same
    cases reply <;> cases same
    rfl

end StackBroker.Broker

namespace StackBroker.Http
open StackBroker.Broker (Refusal Step)
open StackBroker.Json (Codec)

/-- Where one value is all that is granted, only the answer to that value matters. -/
theorem map_respond_of_grants {α : Type} {step : Step (Except Refusal α)} {value : α} (grants : step.Grants value)
    (granted : α → Response) (refusal : Refusal → Response) :
    step.map (respond granted refusal) = step.map (respond (fun _ => granted value) refusal) := by
  have same (reply : Except Refusal α) (only : ∀ found, reply = .ok found → found = value) :
      respond granted refusal reply = respond (fun _ => granted value) refusal reply := by
    cases reply with
    | error reason => rfl
    | ok found => exact congrArg granted (only found rfl)
  cases step with
  | answer reply => exact congrArg Step.answer (same reply grants)
  | call request resume => exact congrArg (Step.call request) (funext fun reply => same _ (grants reply))

/-! ### Targets -/

/-- The target of an instance, with every byte of its id encoded. -/
def instanceTarget (id : String) : String := "/v2/service_instances/" ++ Percent.encodeText id

/-- Whether the caller waits, as a query. -/
def waiting (waits : Bool) : String := "accepts_incomplete=" ++ if waits then "true" else "false"

/-- An id as a further part of a query, which is left out if it is empty. -/
def unlessEmpty (name value : String) : String := if value.isEmpty then "" else Query.assignment name value

/-- The query of a removal. -/
def removal (waits : Bool) (details : Broker.DeprovisionDetails) : String :=
  waiting waits ++ unlessEmpty "service_id" details.serviceId ++ unlessEmpty "plan_id" details.planId

variable {request : Request} {id bindingId : String}

theorem toList_instanceTarget (id : String) :
    (instanceTarget id).toList = "/v2/service_instances/".toList ++ (Percent.encodeText id).toList := by
  unfold instanceTarget
  exact String.toList_append

theorem not_mem_instanceTarget {c : Char} (other : Percent.isCode c = false) (apart : c ∉ "/v2/service_instances/".toList) :
    c ∉ (instanceTarget id).toList := by
  rw [toList_instanceTarget,List.mem_append,not_or]
  exact ⟨apart,Percent.not_mem_encodeText other⟩

theorem slash_instanceTarget (id : String) : ∃ rest, (instanceTarget id).toList = '/' :: rest :=
  ⟨"v2/service_instances/".toList ++ (Percent.encodeText id).toList,by rw [toList_instanceTarget]; rfl⟩

theorem found_instance {query : String} (filled : id ≠ "") (whole : '#' ∉ query.toList)
    (target : request.target = instanceTarget id ++ "?" ++ query) :
    Route.ofPath? request.path = some (.serviceInstance (Percent.encodeText id).toList) ∧
      request.query = query.toList := by
  have chars : request.target.toList = (instanceTarget id).toList ++ '?' :: query.toList := by
    rw [target,String.toList_append,String.toList_append,List.append_assoc]
    rfl
  have unmarked : '#' ∉ (instanceTarget id).toList ++ '?' :: query.toList := by
    rw [List.mem_append,List.mem_cons,not_or,not_or]
    exact ⟨not_mem_instanceTarget rfl (by decide),by decide,whole⟩
  obtain ⟨path,found⟩ := Request.path_of_target (slash_instanceTarget id) (not_mem_instanceTarget rfl (by decide))
    unmarked chars
  refine ⟨?_,found⟩
  rw [path]
  refine Route.ofPath?_eq_some_iff.mpr ⟨?_,Percent.encodeText_ne_nil filled,?_⟩
  · rw [Route.path_serviceInstance,toList_instanceTarget]
  · simp only [Route.parts,List.forall_mem_cons]
    exact ⟨by decide,by decide,Percent.not_mem_encodeText rfl,List.forall_mem_nil _⟩

/-- A target that goes on after an instance and has no query is on the route of its path. -/
theorem found_beyond_instance {route : Route} {rest : List Char} (bare : '?' ∉ rest) (whole : '#' ∉ rest)
    (target : request.target.toList = (instanceTarget id).toList ++ rest)
    (path : (instanceTarget id).toList ++ rest = route.path) (formed : route.WellFormed) :
    Route.ofPath? request.path = some route := by
  have unmarked {c : Char} (other : Percent.isCode c = false) (apart : c ∉ "/v2/service_instances/".toList)
      (absent : c ∉ rest) : c ∉ (instanceTarget id).toList ++ rest := by
    rw [List.mem_append,not_or]
    exact ⟨not_mem_instanceTarget other apart,absent⟩
  have slash : ∃ others, (instanceTarget id).toList ++ rest = '/' :: others := by
    obtain ⟨others,same⟩ := slash_instanceTarget id
    exact ⟨others ++ rest,by rw [same]; rfl⟩
  rw [Request.path_of_bare_target slash (unmarked rfl (by decide) bare) (unmarked rfl (by decide) whole) target]
  exact Route.ofPath?_eq_some_iff.mpr ⟨path,formed⟩

theorem found_lastOperation (target : request.target = instanceTarget id ++ "/last_operation") :
    Route.ofPath? request.path = some (.lastOperation (Percent.encodeText id).toList) := by
  have parts : ∀ part ∈ (Route.lastOperation (Percent.encodeText id).toList).parts, '/' ∉ part := by
    simp only [Route.parts,List.forall_mem_cons]
    exact ⟨by decide,by decide,Percent.not_mem_encodeText rfl,by decide,List.forall_mem_nil _⟩
  have path : (instanceTarget id).toList ++ "/last_operation".toList =
      (Route.lastOperation (Percent.encodeText id).toList).path := by
    rw [toList_instanceTarget]
    simp [Route.path,Route.parts,List.intercalate]
  exact found_beyond_instance (by decide) (by decide) (by rw [target,String.toList_append]) path ⟨trivial,parts⟩

theorem found_binding (filled : bindingId ≠ "")
    (target : request.target = instanceTarget id ++ "/service_bindings/" ++ Percent.encodeText bindingId) :
    Route.ofPath? request.path =
      some (.binding (Percent.encodeText id).toList (Percent.encodeText bindingId).toList) := by
  have parts : ∀ part ∈ (Route.binding (Percent.encodeText id).toList (Percent.encodeText bindingId).toList).parts,
      '/' ∉ part := by
    simp only [Route.parts,List.forall_mem_cons]
    exact ⟨by decide,by decide,Percent.not_mem_encodeText rfl,by decide,Percent.not_mem_encodeText rfl,
      List.forall_mem_nil _⟩
  have path : (instanceTarget id).toList ++ ("/service_bindings/".toList ++ (Percent.encodeText bindingId).toList) =
      (Route.binding (Percent.encodeText id).toList (Percent.encodeText bindingId).toList).path := by
    rw [toList_instanceTarget]
    simp [Route.path,Route.parts,List.intercalate]
  have unmarked {c : Char} (other : Percent.isCode c = false) (apart : c ∉ "/service_bindings/".toList) :
      c ∉ "/service_bindings/".toList ++ (Percent.encodeText bindingId).toList := by
    rw [List.mem_append,not_or]
    exact ⟨apart,Percent.not_mem_encodeText other⟩
  refine found_beyond_instance (unmarked rfl (by decide)) (unmarked rfl (by decide)) ?_ path
    ⟨Percent.encodeText_ne_nil filled,parts⟩
  rw [target,String.toList_append,String.toList_append,List.append_assoc]

/-! ### Queries -/

theorem pairs_waiting (waits : Bool) : Query.pairs (waiting waits).toList =
    [("accepts_incomplete",if waits then "true" else "false")] := by
  cases waits <;> decide +kernel

/-- A caller that says whether it waits, and further says other things, is understood. -/
theorem acceptsIncomplete_waiting {waits : Bool} {others : List (String × String)}
    (query : Query.pairs request.query = Query.pairs (waiting waits).toList ++ others)
    (apart : ∀ pair ∈ others, pair.1 ≠ "accepts_incomplete") : acceptsIncomplete request = .ok waits := by
  have none : Query.valuesOf "accepts_incomplete" others = [] := by
    rw [Query.valuesOf,List.filter_eq_nil_iff.mpr (by simpa using apart),List.map_nil]
  rw [acceptsIncomplete,Query.flag?,query,Query.valuesOf_append,none,pairs_waiting]
  cases waits <;> rfl

/-- What is left of an id in a query. -/
def givenId (name value : String) : List (String × String) := if value.isEmpty then [] else [(name,value)]

theorem pairs_unlessEmpty {name : String} (named : Query.Named name) (query : List Char) (value : String) :
    Query.pairs (query ++ (unlessEmpty name value).toList) = Query.pairs query ++ givenId name value := by
  unfold unlessEmpty givenId
  split
  · exact congrArg Query.pairs (List.append_nil query) |>.trans (List.append_nil _).symm
  · exact Query.pairs_assignment named query value

theorem named_service_id : Query.Named "service_id" where
  plain := by decide
  component := by decide +kernel

theorem named_plan_id : Query.Named "plan_id" where
  plain := by decide
  component := by decide +kernel

theorem fragmentless_unlessEmpty {name value : String} (plain : '#' ∉ name.toList) :
    '#' ∉ (unlessEmpty name value).toList := by
  unfold unlessEmpty
  split
  · exact List.not_mem_nil
  · simp only [Query.assignment,String.toList_append,List.mem_append,not_or]
    exact ⟨⟨⟨by decide,plain⟩,by decide⟩,Percent.not_mem_encodeText rfl⟩

theorem fragmentless_waiting (waits : Bool) : '#' ∉ (waiting waits).toList := by cases waits <;> decide

/-- The query of a removal says whether the caller waits, and both ids. -/
theorem queryText_removal {waits : Bool} {serviceId planId : String}
    (query : Query.pairs request.query =
      Query.pairs (waiting waits).toList ++ (givenId "service_id" serviceId ++ givenId "plan_id" planId)) :
    acceptsIncomplete request = .ok waits ∧ queryText request "service_id" = .ok serviceId ∧
      queryText request "plan_id" = .ok planId := by
  refine ⟨acceptsIncomplete_waiting query ?_,?_,?_⟩
  · simp only [givenId]
    split <;> split <;> simp
  · rw [queryText,Query.text?,query,pairs_waiting]
    by_cases service : serviceId = "" <;> by_cases plan : planId = "" <;>
      simp [givenId,Query.valuesOf,service,plan]
  · rw [queryText,Query.text?,query,pairs_waiting]
    by_cases service : serviceId = "" <;> by_cases plan : planId = "" <;>
      simp [givenId,Query.valuesOf,service,plan]

/-! ### Bodies -/

/-- The body of a request is a text, and is declared as JSON. -/
structure Holds (request : Request) (text : String) : Prop where
  declared : ∃ type, request.headerText? "content-type" = some type ∧ MediaType.isJson type = true
  body : request.body = Utf8.encode text

/-- A written body is read as the value that it was written from. -/
theorem bodyDocument_of_body {α : Type} {codec : Codec α} {value : α} (holds : Holds request (codec.writeText value))
    (plain : (codec.write value).plain Json.Scanner.depthLimit = true)
    (back : codec.readJson (codec.write value) = .ok value) : bodyDocument codec request = .ok value := by
  obtain ⟨type,header,json⟩ := holds.declared
  have declared : ((request.headerText? "content-type").map MediaType.isJson).getD false = true := by
    rw [header]
    exact json
  have scanned : Json.scan (Utf8.decode request.body) = Json.scanText (codec.writeText value) := by
    rw [holds.body,Utf8.encode,Utf8.decode_encodeChars,Json.scanText]
  have read : codec.readText (codec.writeText value) = .ok value := by rw [Codec.readText_writeText codec plain,back]
  rw [bodyDocument,if_pos declared,scanned]
  rw [Codec.readText] at read
  rw [read]

theorem plain_ofStrings (given : StringMap String) (room : Nat) : (Json.ofStrings given).plain (room+1) = true :=
  Json.plainMembers_iff.mpr (List.forall_mem_map.mpr fun _ _ => by rw [Json.plain])

theorem ordered_ofStrings (given : StringMap String) : (Json.ofStrings given).ordered = true := by
  have members : Json.membersOrdered (given.mapValues Json.string).entries = true :=
    Json.membersOrdered_iff.mpr (List.forall_mem_map.mpr fun _ _ => by rw [Json.ordered])
  exact (Bool.and_eq_true ..).mpr ⟨decide_eq_true (given.mapValues Json.string).ascending,members⟩

section Parameters
variable {raw : Option Json} {given : Option (StringMap String)} (strings : raw = given.map Json.ofStrings)
include strings

/-- Parameters that are strings, or missing, are heard as they are written. -/
theorem heard_strings : Codec.heard (raw.map Json.inOrder) = raw := by
  subst strings
  cases given with
  | none => rfl
  | some map => rw [Option.map_some,Option.map_some,Json.inOrder_of_ordered _ (ordered_ofStrings map)]; rfl

theorem plain_parameters (room : Nat) : (Codec.json.option.write raw).plain (room+1) = true := by
  subst strings
  cases given with
  | none => rfl
  | some map => exact plain_ofStrings map room

end Parameters

theorem bodyDocument_provision {details : Broker.ProvisionDetails} {given : Option (StringMap String)}
    (strings : details.parameters = given.map Json.ofStrings)
    (holds : Holds request (Broker.ProvisionDetails.codec.writeText details)) :
    bodyDocument Broker.ProvisionDetails.codec request = .ok details := by
  refine bodyDocument_of_body holds ?_ ((Broker.ProvisionDetails.conveys _ _).mpr ⟨trivial,?_⟩)
  · exact Json.plain_record ⟨.made rfl,.made rfl,.made rfl,.made rfl,.made (plain_parameters strings 125)⟩
  · simp only [heard_strings strings]

theorem bodyDocument_update {details : Broker.UpdateDetails} {given : Option (StringMap String)}
    (strings : details.parameters = given.map Json.ofStrings)
    (holds : Holds request (Broker.UpdateDetails.codec.writeText details)) :
    bodyDocument Broker.UpdateDetails.codec request = .ok details := by
  have previous : (Broker.PreviousValues.codec.option.write details.previousValues).plain 126 = true := by
    cases details.previousValues <;> rfl
  refine bodyDocument_of_body holds ?_ ((Broker.UpdateDetails.conveys _ _).mpr ⟨trivial,?_⟩)
  · exact Json.plain_record ⟨.made rfl,.made rfl,.made (plain_parameters strings 125),.made previous⟩
  · simp only [heard_strings strings]

theorem bodyDocument_bind {details : Broker.BindDetails} {given : Option (StringMap String)}
    (strings : details.parameters = given.map Json.ofStrings)
    (holds : Holds request (Broker.BindDetails.codec.writeText details)) :
    bodyDocument Broker.BindDetails.codec request = .ok details := by
  refine bodyDocument_of_body holds ?_ ((Broker.BindDetails.conveys _ _).mpr ⟨trivial,?_⟩)
  · exact Json.plain_record ⟨.made rfl,.made rfl,.made rfl,.made (plain_parameters strings 125)⟩
  · simp only [heard_strings strings]

/-! ### Requests -/

/-- An authorized request with some method and target. -/
structure Asks (server : Server) (request : Request) (method : Method) (target : String) : Prop where
  authorized : server.authorized request = true
  method : method.word? = some request.method
  target : request.target = target

/-- A request does what an operation does: it makes the same call, if any, and on every
    backend it leaves the same state and is answered with what the operation answers. -/
structure Does {α : Type} (handled : Step Response) (operation : Step (Except Refusal α)) (granted : α → Response)
    (refusal : Refusal → Response) : Prop where
  call : handled.request? = operation.request?
  outcome : ∀ {σ : Type} (backend : Stack.Backend σ) (state : σ), handled.run backend state =
    (respond granted refusal (operation.run backend state).1,(operation.run backend state).2)

theorem does_of_eq {α : Type} {handled : Step Response} {operation : Step (Except Refusal α)} {granted : α → Response}
    {refusal : Refusal → Response} (same : handled = operation.map (respond granted refusal)) :
    Does handled operation granted refusal := by
  subst same
  cases operation <;> exact ⟨rfl,fun _ _ => rfl⟩

/-- A request as a caller writes it, whose parts can be read, is the request to the broker
    that they make up. -/
theorem handle_asked {server : Server} {now : Instant} {method : Method} {target : String} {route : Route}
    {asked : Broker.Request} (asks : Asks server request method target) (found : Route.ofPath? request.path = some route)
    (supported : method ∈ route.methods) (whole : method ≠ .head)
    (carries : Server.asked? request route method = some (.ok asked)) :
    server.handle now request = (Broker.handle server.settings now asked).map (Server.answerTo asked) := by
  obtain rfl : Method.ofText request.method = method := (Method.ofText_eq_iff asks.method).mpr rfl
  rw [Server.handle_carried asks.authorized found supported carries,← Server.map_sent,if_neg whole]

section Operations
variable {server : Server} {now : Instant}

theorem does_provision {details : Broker.ProvisionDetails} {given : Option (StringMap String)} {waits : Bool}
    (filled : id ≠ "") (strings : details.parameters = given.map Json.ofStrings)
    (asks : Asks server request .put (instanceTarget id ++ "?" ++ waiting waits))
    (holds : Holds request (Broker.ProvisionDetails.codec.writeText details)) :
    Does (server.handle now request) (Broker.provision server.settings now id details waits)
      (fun _ => .json 202 (.object [])) refused := by
  obtain ⟨found,query⟩ := found_instance filled (fragmentless_waiting waits) asks.target
  have waited : acceptsIncomplete request = .ok waits :=
    acceptsIncomplete_waiting (by rw [query,List.append_nil]) (List.forall_mem_nil _)
  have carries : Server.asked? request (.serviceInstance (Percent.encodeText id).toList) .put =
      some (.ok (.provision id details waits)) := by
    rw [Server.asked?,pathText_eq_ok.mpr (Route.decodeSegment?_encodeText id),waited,bodyDocument_provision strings holds]
    rfl
  refine does_of_eq ?_
  rw [handle_asked asks found (.head _) (by decide) carries,Server.handle_provision]
  exact map_respond_of_grants (Broker.provision_grants ..) _ _

theorem does_update {details : Broker.UpdateDetails} {given : Option (StringMap String)} {waits : Bool}
    (filled : id ≠ "") (strings : details.parameters = given.map Json.ofStrings)
    (asks : Asks server request .patch (instanceTarget id ++ "?" ++ waiting waits))
    (holds : Holds request (Broker.UpdateDetails.codec.writeText details)) :
    Does (server.handle now request) (Broker.update server.settings id details waits)
      (fun _ => .json 202 (.object [])) refused := by
  obtain ⟨found,query⟩ := found_instance filled (fragmentless_waiting waits) asks.target
  have waited : acceptsIncomplete request = .ok waits :=
    acceptsIncomplete_waiting (by rw [query,List.append_nil]) (List.forall_mem_nil _)
  have carries : Server.asked? request (.serviceInstance (Percent.encodeText id).toList) .patch =
      some (.ok (.update id details waits)) := by
    rw [Server.asked?,pathText_eq_ok.mpr (Route.decodeSegment?_encodeText id),waited,bodyDocument_update strings holds]
    rfl
  refine does_of_eq ?_
  rw [handle_asked asks found (.tail _ (.head _)) (by decide) carries,Server.handle_update]
  exact map_respond_of_grants (Broker.update_grants ..) _ _

theorem does_deprovision {details : Broker.DeprovisionDetails} {waits : Bool} (filled : id ≠ "")
    (asks : Asks server request .delete (instanceTarget id ++ "?" ++ removal waits details)) :
    Does (server.handle now request) (Broker.deprovision server.settings id waits)
      (fun _ => .json 202 (.object [])) refusedOrGone := by
  have whole : '#' ∉ (removal waits details).toList := by
    rw [removal,String.toList_append,String.toList_append,List.mem_append,List.mem_append,not_or,not_or]
    exact ⟨⟨fragmentless_waiting waits,fragmentless_unlessEmpty (by decide)⟩,fragmentless_unlessEmpty (by decide)⟩
  obtain ⟨found,query⟩ := found_instance filled whole asks.target
  have pairs : Query.pairs request.query = Query.pairs (waiting waits).toList ++
      (givenId "service_id" details.serviceId ++ givenId "plan_id" details.planId) := by
    rw [query,removal,String.toList_append,String.toList_append,pairs_unlessEmpty named_plan_id,
      pairs_unlessEmpty named_service_id,List.append_assoc]
  obtain ⟨waited,service,plan⟩ := queryText_removal pairs
  have carries : Server.asked? request (.serviceInstance (Percent.encodeText id).toList) .delete =
      some (.ok (.deprovision id details waits)) := by
    rw [Server.asked?,pathText_eq_ok.mpr (Route.decodeSegment?_encodeText id),waited,service,plan]
    · rfl
    · decide
    · decide
  refine does_of_eq ?_
  rw [handle_asked asks found (.tail _ (.tail _ (.head _))) (by decide) carries,Server.handle_deprovision]
  exact map_respond_of_grants (Broker.deprovision_grants ..) _ _

theorem does_lastOperation (asks : Asks server request .get (instanceTarget id ++ "/last_operation")) :
    Does (server.handle now request) (Broker.lastOperation server.settings id)
      (fun response => .json 200 (Broker.LastOperationResponse.codec.write response)) refusedOrGone := by
  have carries : Server.asked? request (.lastOperation (Percent.encodeText id).toList) .get =
      some (.ok (.lastOperation id)) := by
    rw [Server.asked?,pathText_eq_ok.mpr (Route.decodeSegment?_encodeText id)]
    rfl
  refine does_of_eq ?_
  rw [handle_asked asks (found_lastOperation asks.target) (.head _) (by decide) carries,Server.handle_lastOperation]

theorem does_bind {details : Broker.BindDetails} {given : Option (StringMap String)} (filled : bindingId ≠ "")
    (strings : details.parameters = given.map Json.ofStrings)
    (asks : Asks server request .put (instanceTarget id ++ "/service_bindings/" ++ Percent.encodeText bindingId))
    (holds : Holds request (Broker.BindDetails.codec.writeText details)) :
    Does (server.handle now request) (Broker.bind server.settings id details)
      (fun response => .json 201 (.object [("credentials",Json.ofStrings response.credentials)])) refused := by
  have carries : Server.asked? request
      (.binding (Percent.encodeText id).toList (Percent.encodeText bindingId).toList) .put =
      some (.ok (.bind id bindingId details)) := by
    rw [Server.asked?,pathText_eq_ok.mpr (Route.decodeSegment?_encodeText id),
      pathText_eq_ok.mpr (Route.decodeSegment?_encodeText bindingId),bodyDocument_bind strings holds]
    rfl
  refine does_of_eq ?_
  rw [handle_asked asks (found_binding filled asks.target) (.head _) (by decide) carries,Server.handle_bind]
  rfl

end Operations

/-- Requests as callers write them do what the operations of the broker do: those with
    details whose parameters are strings, or missing, for an instance whose id is not
    empty. What goes on after the answer is accepted with an empty document. -/
structure Faithful (server : Server) (now : Instant) : Prop where
  provision : ∀ (request : Request) (id : String) (details : Broker.ProvisionDetails)
    (given : Option (StringMap String)) (waits : Bool), id ≠ "" → details.parameters = given.map Json.ofStrings →
    Asks server request .put (instanceTarget id ++ "?" ++ waiting waits) →
    Holds request (Broker.ProvisionDetails.codec.writeText details) →
    Does (server.handle now request) (Broker.provision server.settings now id details waits)
      (fun _ => .json 202 (.object [])) refused
  update : ∀ (request : Request) (id : String) (details : Broker.UpdateDetails)
    (given : Option (StringMap String)) (waits : Bool), id ≠ "" → details.parameters = given.map Json.ofStrings →
    Asks server request .patch (instanceTarget id ++ "?" ++ waiting waits) →
    Holds request (Broker.UpdateDetails.codec.writeText details) →
    Does (server.handle now request) (Broker.update server.settings id details waits)
      (fun _ => .json 202 (.object [])) refused
  deprovision : ∀ (request : Request) (id : String) (details : Broker.DeprovisionDetails) (waits : Bool), id ≠ "" →
    Asks server request .delete (instanceTarget id ++ "?" ++ removal waits details) →
    Does (server.handle now request) (Broker.deprovision server.settings id waits)
      (fun _ => .json 202 (.object [])) refusedOrGone
  lastOperation : ∀ (request : Request) (id : String),
    Asks server request .get (instanceTarget id ++ "/last_operation") →
    Does (server.handle now request) (Broker.lastOperation server.settings id)
      (fun response => .json 200 (Broker.LastOperationResponse.codec.write response)) refusedOrGone
  bind : ∀ (request : Request) (id bindingId : String) (details : Broker.BindDetails)
    (given : Option (StringMap String)), bindingId ≠ "" → details.parameters = given.map Json.ofStrings →
    Asks server request .put (instanceTarget id ++ "/service_bindings/" ++ Percent.encodeText bindingId) →
    Holds request (Broker.BindDetails.codec.writeText details) →
    Does (server.handle now request) (Broker.bind server.settings id details)
      (fun response => .json 201 (.object [("credentials",Json.ofStrings response.credentials)])) refused

theorem faithful (server : Server) (now : Instant) : Faithful server now where
  provision _ _ _ _ _ filled strings asks holds := does_provision filled strings asks holds
  update _ _ _ _ _ filled strings asks holds := does_update filled strings asks holds
  deprovision _ _ _ _ filled asks := does_deprovision filled asks
  lastOperation _ _ asks := does_lastOperation asks
  bind _ _ _ _ _ filled strings asks holds := does_bind filled strings asks holds

/-- Details whose parameters are a string of unusual characters. -/
def unusualDetails : Broker.ProvisionDetails :=
  ⟨"db","small","org","",some (Json.ofStrings (StringMap.empty.insert "a\"b" "\x00é"))⟩

/-- A provision of an instance whose id is as unusual. -/
def unusualProvision : Request :=
  ⟨"PUT",instanceTarget "a/b?é#%\"" ++ "?" ++ waiting true,
    [("Authorization",Utf8.encode Server.sample.credentials.header),("Content-Type",Utf8.encode "application/json")],
    Utf8.encode (Broker.ProvisionDetails.codec.writeText unusualDetails)⟩

theorem faithful_unusual :
    Asks Server.sample unusualProvision .put (instanceTarget "a/b?é#%\"" ++ "?" ++ waiting true) ∧
      Holds unusualProvision (Broker.ProvisionDetails.codec.writeText unusualDetails) ∧
      Does (Server.sample.handle .epoch unusualProvision)
        (Broker.provision Server.sample.settings .epoch "a/b?é#%\"" unusualDetails true)
        (fun _ => .json 202 (.object [])) refused := by
  have asks : Asks Server.sample unusualProvision .put (instanceTarget "a/b?é#%\"" ++ "?" ++ waiting true) :=
    ⟨by decide +kernel,rfl,rfl⟩
  have holds : Holds unusualProvision (Broker.ProvisionDetails.codec.writeText unusualDetails) :=
    ⟨⟨"application/json",by decide +kernel,by decide +kernel⟩,rfl⟩
  exact ⟨asks,holds,(faithful Server.sample .epoch).provision _ _ _ (some (StringMap.empty.insert "a\"b" "\x00é")) true
    (by decide) rfl asks holds⟩

end StackBroker.Http
