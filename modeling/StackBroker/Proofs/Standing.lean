import StackBroker.Proofs.Effects

/-!
The stack of an instance follows from the history of the instance. In two steps:
what is stored under the name of an instance is, up to its id, the stack of the
standing that the history replays to (`run_stands`); and that standing is read off
the history by its latest entries of a kind (`reading_ofHistory`). Together they say
which entry decides each field of a stored stack (`stack_follows_history`).
-/
namespace StackBroker.Broker
open StackBroker.Stack (Details Memory Slot Status)

/-! ### The stored stack replays the history -/

namespace Standing

/-- The stack of a standing, under a name and an id. -/
def stack (known : Standing) (name id : String) : Details :=
  { known.created with
    name := name
    id := id
    outputs := known.outputs
    status := known.status
    templateUrl := known.latest.templateUrl
    capabilities := known.latest.capabilities
    notificationArns := known.latest.notificationArns
    parameters := known.latest.parameters
    resourceTypes := known.latest.resourceTypes
    stackPolicyUrl := known.latest.stackPolicyUrl }

end Standing

/-- A slot holds the stack of a standing, whatever its id. -/
def Stands (name : String) (slot : Slot) (standing : Option Standing) : Prop :=
  ∃ id, slot = standing.map (·.stack name id)

/-- The effect of a request on the slot of its instance is what the standing
    advances by. -/
theorem effect_stands {settings : BrokerSettings} {now : Instant} {count : Nat} {request : Request}
    {slot next : Slot} {reply : Except Refusal Response} {standing : Option Standing}
    (effect : Effect settings now count request slot reply next)
    (stands : Stands (stackName settings request.instanceId) slot standing) :
    Stands (stackName settings request.instanceId) next
      (Standing.advance settings request.instanceId standing (.request now request,.replied reply)) := by
  cases effect with
  | refused refusal => exact stands
  | @provisioned instanceId details waits asked allowed =>
    refine ⟨Memory.stackId (stackName settings instanceId) count,?_⟩
    simp [Standing.advance,Standing.granted,allowed,Standing.stack,Memory.created,Request.instanceId]
  | @updated instanceId details waits asked stack allowed =>
    obtain ⟨id,held⟩ := stands
    refine ⟨id,?_⟩
    cases standing with
    | none => simp at held
    | some known =>
      have stored : stack = known.stack (stackName settings instanceId) id := Option.some.inj held
      simp [Standing.advance,Standing.granted,allowed,stored,Standing.stack,Memory.modified,Request.instanceId]
  | deprovisioned allowed => exact ⟨"",by simp [Standing.advance,Standing.granted]⟩
  | bound allowed => simpa [Standing.advance,Standing.granted] using stands
  | unbound => simpa [Standing.advance,Standing.granted] using stands
  | told => simpa [Standing.advance,Standing.granted] using stands

/-- The standing of an instance is what it was after an event about another. -/
theorem advance_elsewhere {settings : BrokerSettings} {instanceId : String} {event : Event}
    (elsewhere : event.concerns settings instanceId = false) (outcome : Outcome) (standing : Option Standing) :
    Standing.advance settings instanceId standing (event,outcome) = standing := by
  cases event with
  | request now request =>
    have other : request.instanceId ≠ instanceId := by simpa [Event.concerns] using elsewhere
    cases outcome with
    | amended found => rfl
    | replied reply =>
      cases reply with
      | error refusal => rfl
      | ok response => simp [Standing.advance,other]
  | setStatus name status =>
    have other : name ≠ stackName settings instanceId := by simpa [Event.concerns] using elsewhere
    simp [Standing.advance,other]
  | setOutputs name outputs =>
    have other : name ≠ stackName settings instanceId := by simpa [Event.concerns] using elsewhere
    simp [Standing.advance,other]

/-- An event changes the slot of an instance as it advances the standing. -/
theorem event_stands {settings : BrokerSettings} {instanceId : String} {memory : Memory} {standing : Option Standing}
    (event : Event)
    (stands : Stands (stackName settings instanceId) (memory.get? (stackName settings instanceId)) standing) :
    Stands (stackName settings instanceId)
      ((event.run settings memory).2.get? (stackName settings instanceId))
      (Standing.advance settings instanceId standing (event,(event.run settings memory).1)) := by
  cases about : event.concerns settings instanceId with
  | false => rwa [advance_elsewhere about,event_frame about]
  | true =>
    cases event with
    | request now request =>
      obtain rfl : request.instanceId = instanceId := by simpa [Event.concerns] using about
      exact effect_stands (handle_effect settings now request memory) stands
    | setStatus name status =>
      obtain rfl : name = stackName settings instanceId := by simpa [Event.concerns] using about
      obtain ⟨id,held⟩ := stands
      refine ⟨id,?_⟩
      cases standing <;> simp [Event.run,Memory.setStatus,Standing.advance,held,Standing.stack]
    | setOutputs name outputs =>
      obtain rfl : name = stackName settings instanceId := by simpa [Event.concerns] using about
      obtain ⟨id,held⟩ := stands
      refine ⟨id,?_⟩
      cases standing <;> simp [Event.run,Memory.setOutputs,Standing.advance,held,Standing.stack]

/-- After a history the slot of an instance holds the stack of its standing. -/
theorem run_stands {settings : BrokerSettings} {instanceId : String} {memory : Memory} {standing : Option Standing}
    (events : List Event)
    (stands : Stands (stackName settings instanceId) (memory.get? (stackName settings instanceId)) standing) :
    Stands (stackName settings instanceId)
      ((History.after settings memory events).get? (stackName settings instanceId))
      ((History.outcomes settings memory events).foldl (Standing.advance settings instanceId) standing) := by
  induction events generalizing memory standing with
  | nil => exact stands
  | cons event rest ih => exact ih (event_stands event stands)

/-! ### The standing is read off the history -/

/-- An event of a history with what came of it. -/
abbrev Entry := Event × Outcome

namespace Entry

/-- A request that was granted, with its instant and the answer to it. -/
def granted (now : Instant) (request : Request) (response : Response) : Entry :=
  (.request now request,.replied (.ok response))

/-- A granted provision or deprovision of an instance. -/
def Settles (instanceId : String) : Entry → Prop
  | (.request _ (.provision target _ _),.replied (.ok _))
  | (.request _ (.deprovision target _ _),.replied (.ok _)) => target = instanceId
  | _ => False

/-- A granted provision or update of an instance. -/
def Shapes (instanceId : String) : Entry → Prop
  | (.request _ (.provision target _ _),.replied (.ok _))
  | (.request _ (.update target _ _),.replied (.ok _)) => target = instanceId
  | _ => False

theorem settles_provision (instanceId : String) (now : Instant) (details : ProvisionDetails) (waits : Bool)
    (response : Response) : Settles instanceId (granted now (.provision instanceId details waits) response) := rfl

theorem shapes_provision (instanceId : String) (now : Instant) (details : ProvisionDetails) (waits : Bool)
    (response : Response) : Shapes instanceId (granted now (.provision instanceId details waits) response) := rfl

theorem shapes_update (instanceId : String) (now : Instant) (details : UpdateDetails) (waits : Bool)
    (response : Response) : Shapes instanceId (granted now (.update instanceId details waits) response) := rfl

theorem Settles.cases {instanceId : String} {entry : Entry} (settled : Settles instanceId entry) :
    (∃ now details waits response, entry = granted now (.provision instanceId details waits) response) ∨
      ∃ now details waits response, entry = granted now (.deprovision instanceId details waits) response := by
  unfold Settles at settled
  split at settled
  · exact .inl ⟨_,_,_,_,by rw [← settled]; rfl⟩
  · exact .inr ⟨_,_,_,_,by rw [← settled]; rfl⟩
  · exact settled.elim

theorem Shapes.cases {instanceId : String} {entry : Entry} (shaped : Shapes instanceId entry) :
    (∃ now details waits response, entry = granted now (.provision instanceId details waits) response) ∨
      ∃ now details waits response, entry = granted now (.update instanceId details waits) response := by
  unfold Shapes at shaped
  split at shaped
  · exact .inl ⟨_,_,_,_,by rw [← shaped]; rfl⟩
  · exact .inr ⟨_,_,_,_,by rw [← shaped]; rfl⟩
  · exact shaped.elim

/-- The outputs that an entry sets on the stack of a name. -/
def outputsOf? (name : String) : Entry → Option (StringMap String)
  | (.setOutputs target outputs,_) => if target = name then some outputs else none
  | _ => none

/-- The status that an entry sets on the stack of a name. -/
def statusOf? (name : String) : Entry → Option Status
  | (.setStatus target status,_) => if target = name then some status else none
  | _ => none

end Entry

/-- The latest entry of some kind in a history, and what came after it. -/
def Latest (kind : Entry → Prop) (entry : Entry) (later history : List Entry) : Prop :=
  (∃ earlier, history = earlier ++ entry :: later) ∧ kind entry ∧ ∀ other ∈ later, ¬ kind other

/-- The last value that some entries give, or else a value to begin with. -/
def lastOf {α : Type} (value? : Entry → Option α) (first : α) (entries : List Entry) : α :=
  (entries.filterMap value?).getLast?.getD first

theorem lastOf_concat {α : Type} (value? : Entry → Option α) (first : α) (entries : List Entry) (entry : Entry) :
    lastOf value? first (entries ++ [entry]) = (value? entry).getD (lastOf value? first entries) := by
  cases given : value? entry <;> simp [lastOf,given]

namespace Latest
variable {kind : Entry → Prop} {entry new : Entry} {later history : List Entry}

/-- An entry of the kind that is added is the latest. -/
theorem added (holds : kind new) (history : List Entry) : Latest kind new [] (history ++ [new]) :=
  ⟨⟨history,rfl⟩,holds,by simp⟩

/-- An entry of another kind that is added comes after the latest. -/
theorem concat (latest : Latest kind entry later history) (other : ¬ kind new) :
    Latest kind entry (later ++ [new]) (history ++ [new]) := by
  obtain ⟨⟨earlier,split⟩,holds,none⟩ := latest
  refine ⟨⟨earlier,by simp [split]⟩,holds,?_⟩
  intro candidate member
  rcases List.mem_append.mp member with member | member
  · exact none candidate member
  · exact List.mem_singleton.mp member ▸ other

/-- The latest entry of a kind, once another entry is added: that one, or the
    latest from before. -/
theorem of_concat (latest : Latest kind entry later (history ++ [new])) :
    (entry = new ∧ later = []) ∨ ∃ before, later = before ++ [new] ∧ ¬ kind new ∧ Latest kind entry before history := by
  obtain ⟨⟨earlier,split⟩,holds,none⟩ := latest
  rcases List.eq_nil_or_concat later with rfl | ⟨before,final,rfl⟩
  · obtain ⟨-,same⟩ := List.append_inj' split rfl
    exact .inl ⟨by simpa using same.symm,rfl⟩
  · rw [List.concat_eq_append] at split none ⊢
    rw [← List.cons_append,← List.append_assoc] at split
    obtain ⟨rest,same⟩ := List.append_inj' split rfl
    obtain rfl : new = final := by simpa using same
    refine .inr ⟨before,rfl,none new (by simp),⟨earlier,rest⟩,holds,?_⟩
    exact fun other member => none other (List.mem_append_left _ member)

/-- There is but one latest entry of a kind. -/
theorem unique {other : Entry} {after : List Entry} (first : Latest kind entry later history)
    (second : Latest kind other after history) : entry = other ∧ later = after := by
  obtain ⟨⟨earlier,split⟩,holds,none⟩ := first
  obtain ⟨⟨before,again⟩,held,nothing⟩ := second
  rcases List.append_eq_append_iff.mp (split.symm.trans again) with ⟨between,-,same⟩ | ⟨between,-,same⟩
  · cases between with
    | nil => exact List.cons.inj same
    | cons _ between =>
      obtain ⟨-,rfl⟩ := List.cons.inj same
      exact absurd held (none other (by simp))
  · cases between with
    | nil =>
      obtain ⟨equal,rest⟩ := List.cons.inj same
      exact ⟨equal.symm,rest.symm⟩
    | cons _ between =>
      obtain ⟨-,rfl⟩ := List.cons.inj same
      exact absurd holds (nothing entry (by simp))

end Latest

namespace Entry

/-- A request that was granted passed its checks. -/
def Checked (settings : BrokerSettings) : Entry → Prop
  | (.request now (.provision _ details waits),.replied (.ok _)) =>
    ∃ asked, provisionRequest settings now details waits = .ok asked
  | (.request _ (.update _ details waits),.replied (.ok _)) => ∃ asked, updateRequest settings details waits = .ok asked
  | _ => True

end Entry

theorem effect_checked {settings : BrokerSettings} {now : Instant} {count : Nat} {request : Request}
    {slot next : Slot} {reply : Except Refusal Response}
    (effect : Effect settings now count request slot reply next) :
    Entry.Checked settings (.request now request,.replied reply) := by
  cases effect with
  | provisioned allowed => exact ⟨_,allowed⟩
  | updated allowed => exact ⟨_,allowed⟩
  | refused refusal => cases request <;> trivial
  | deprovisioned | bound | unbound | told => trivial

/-- What every event comes to, whatever the state, holds all along a history. -/
theorem outcomes_all {settings : BrokerSettings} {property : Entry → Prop}
    (each : ∀ (memory : Memory) (event : Event), property (event,(event.run settings memory).1)) (memory : Memory)
    (events : List Event) : ∀ entry ∈ History.outcomes settings memory events, property entry := by
  induction events generalizing memory with
  | nil =>
    intro entry member
    cases member
  | cons event rest ih =>
    intro entry member
    rcases List.mem_cons.mp member with rfl | later
    · exact each memory event
    · exact ih _ entry later

theorem outcomes_checked (settings : BrokerSettings) (memory : Memory) (events : List Event) :
    ∀ entry ∈ History.outcomes settings memory events, Entry.Checked settings entry := by
  refine outcomes_all (fun memory event => ?_) memory events
  cases event with
  | request now request => exact effect_checked (handle_effect settings now request memory)
  | setStatus | setOutputs => trivial

/-- What a request asks for once its checks are passed. -/
def AsksFor (settings : BrokerSettings) (now : Instant) (asked : Details) : Request → Prop
  | .provision _ details waits => provisionRequest settings now details waits = .ok asked
  | .update _ details waits => updateRequest settings details waits = .ok asked
  | _ => False

/-- How the standing of an instance is read off a history: there is one if the
    latest entry that settles the instance is a provision, and then the latest
    entries of each kind since that provision give it. -/
def Reading (settings : BrokerSettings) (instanceId : String) (history : List Entry) : Option Standing → Prop
  | none => ∀ now details waits response later,
      ¬ Latest (Entry.Settles instanceId) (Entry.granted now (.provision instanceId details waits) response) later history
  | some known => ∃ now details waits response later,
      Latest (Entry.Settles instanceId) (Entry.granted now (.provision instanceId details waits) response) later history ∧
      provisionRequest settings now details waits = .ok known.created ∧
      known.outputs = lastOf (Entry.outputsOf? (stackName settings instanceId)) .empty later ∧
      ∃ time request answer after,
        Latest (Entry.Shapes instanceId) (Entry.granted time request answer) after
          (Entry.granted now (.provision instanceId details waits) response :: later) ∧
        AsksFor settings time known.latest request ∧
        known.status = lastOf (Entry.statusOf? (stackName settings instanceId)) .succeeded after

/-- An entry that neither settles nor shapes an instance sets at most outputs or
    a status. -/
theorem advance_plain {settings : BrokerSettings} {instanceId : String} {entry : Entry} (standing : Option Standing)
    (unsettled : ¬ entry.Settles instanceId) (unshaped : ¬ entry.Shapes instanceId) :
    Standing.advance settings instanceId standing entry = standing.map fun known =>
      { known with
        outputs := (entry.outputsOf? (stackName settings instanceId)).getD known.outputs
        status := (entry.statusOf? (stackName settings instanceId)).getD known.status } := by
  obtain ⟨event,outcome⟩ := entry
  cases event with
  | request now request =>
    have same : Standing.advance settings instanceId standing (.request now request,outcome) = standing := by
      by_cases own : request.instanceId = instanceId
      · cases outcome with
        | amended found => rfl
        | replied reply =>
          cases reply with
          | error refusal => rfl
          | ok response =>
            cases request with
            | provision => exact absurd own unsettled
            | update => exact absurd own unshaped
            | deprovision => exact absurd own unsettled
            | bind | unbind | lastOperation => simp [Standing.advance,Standing.granted]
      · exact advance_elsewhere (by simpa [Event.concerns] using own) outcome standing
    simp [same,Entry.outputsOf?,Entry.statusOf?]
  | setStatus name status =>
    by_cases own : name = stackName settings instanceId
    · simp [Standing.advance,Entry.outputsOf?,Entry.statusOf?,own]
    · simp [Standing.advance,Entry.outputsOf?,Entry.statusOf?,own]
  | setOutputs name outputs =>
    by_cases own : name = stackName settings instanceId
    · simp [Standing.advance,Entry.outputsOf?,Entry.statusOf?,own]
    · simp [Standing.advance,Entry.outputsOf?,Entry.statusOf?,own]

/-- An entry that neither settles nor shapes an instance is read as one that comes
    after those that do. -/
theorem reading_plain {settings : BrokerSettings} {instanceId : String} {history : List Entry}
    {standing : Option Standing} {entry : Entry} (reading : Reading settings instanceId history standing)
    (unsettled : ¬ entry.Settles instanceId) (unshaped : ¬ entry.Shapes instanceId) :
    Reading settings instanceId (history ++ [entry]) (Standing.advance settings instanceId standing entry) := by
  rw [advance_plain standing unsettled unshaped]
  cases standing with
  | none =>
    intro now details waits response later latest
    rcases latest.of_concat with ⟨rfl,-⟩ | ⟨before,-,-,known⟩
    · exact unsettled rfl
    · exact reading now details waits response before known
  | some known =>
    obtain ⟨now,details,waits,response,later,created,asked,outputs,time,request,answer,after,shaped,asks,status⟩ := reading
    refine ⟨now,details,waits,response,later ++ [entry],created.concat unsettled,asked,?_,
      time,request,answer,after ++ [entry],shaped.concat unshaped,asks,?_⟩
    · rw [lastOf_concat,← outputs]
    · rw [lastOf_concat,← status]

/-- A granted provision begins a new standing. -/
theorem reading_provision {settings : BrokerSettings} {instanceId : String} {history : List Entry}
    {standing : Option Standing} {now : Instant} {details : ProvisionDetails} {waits : Bool} {response : Response}
    (checked : Entry.Checked settings (Entry.granted now (.provision instanceId details waits) response)) :
    Reading settings instanceId (history ++ [Entry.granted now (.provision instanceId details waits) response])
      (Standing.advance settings instanceId standing (Entry.granted now (.provision instanceId details waits) response)) := by
  obtain ⟨asked,allowed⟩ := checked
  have begun : Standing.advance settings instanceId standing
      (Entry.granted now (.provision instanceId details waits) response) = some ⟨asked,asked,.empty,.succeeded⟩ := by
    simp [Entry.granted,Standing.advance,Standing.granted,Request.instanceId,allowed]
  rw [begun]
  exact ⟨now,details,waits,response,[],Latest.added (Entry.settles_provision ..) history,allowed,rfl,
    now,.provision instanceId details waits,response,[],Latest.added (Entry.shapes_provision ..) [],allowed,rfl⟩

/-- A granted update shapes the standing anew, if there is one. -/
theorem reading_update {settings : BrokerSettings} {instanceId : String} {history : List Entry}
    {standing : Option Standing} {now : Instant} {details : UpdateDetails} {waits : Bool} {response : Response}
    (reading : Reading settings instanceId history standing)
    (checked : Entry.Checked settings (Entry.granted now (.update instanceId details waits) response)) :
    Reading settings instanceId (history ++ [Entry.granted now (.update instanceId details waits) response])
      (Standing.advance settings instanceId standing (Entry.granted now (.update instanceId details waits) response)) := by
  obtain ⟨asked,allowed⟩ := checked
  have shaped : Standing.advance settings instanceId standing
      (Entry.granted now (.update instanceId details waits) response) =
        standing.map fun known => { known with latest := asked, status := .succeeded } := by
    simp [Entry.granted,Standing.advance,Standing.granted,Request.instanceId,allowed]
  rw [shaped]
  cases standing with
  | none =>
    intro time creation accepts answer later latest
    rcases latest.of_concat with ⟨same,-⟩ | ⟨before,-,-,known⟩
    · simp [Entry.granted] at same
    · exact reading time creation accepts answer before known
  | some known =>
    obtain ⟨time,creation,accepts,answer,later,created,allowedFirst,outputs,-⟩ := reading
    -- an update does not settle the instance, so the provision stays the latest that does
    refine ⟨time,creation,accepts,answer,later ++ [Entry.granted now (.update instanceId details waits) response],
      created.concat id,allowedFirst,?_,now,.update instanceId details waits,response,[],
      Latest.added (Entry.shapes_update ..) (Entry.granted time (.provision instanceId creation accepts) answer :: later),
      allowed,rfl⟩
    rw [lastOf_concat]
    exact outputs

/-- A granted deprovision ends the standing. -/
theorem reading_deprovision {settings : BrokerSettings} {instanceId : String} {history : List Entry}
    {standing : Option Standing} {now : Instant} {details : DeprovisionDetails} {waits : Bool} {response : Response} :
    Reading settings instanceId (history ++ [Entry.granted now (.deprovision instanceId details waits) response])
      (Standing.advance settings instanceId standing (Entry.granted now (.deprovision instanceId details waits) response)) := by
  have ended : Standing.advance settings instanceId standing
      (Entry.granted now (.deprovision instanceId details waits) response) = none := by
    simp [Entry.granted,Standing.advance,Standing.granted,Request.instanceId]
  rw [ended]
  intro time creation accepts answer later latest
  rcases latest.of_concat with ⟨same,-⟩ | ⟨before,-,unsettled,-⟩
  · simp [Entry.granted] at same
  · exact unsettled rfl

/-- The standing advances as the history is read. -/
theorem reading_advance {settings : BrokerSettings} {instanceId : String} {history : List Entry}
    {standing : Option Standing} {entry : Entry} (reading : Reading settings instanceId history standing)
    (checked : Entry.Checked settings entry) :
    Reading settings instanceId (history ++ [entry]) (Standing.advance settings instanceId standing entry) := by
  by_cases settled : entry.Settles instanceId
  · rcases settled.cases with ⟨now,details,waits,response,rfl⟩ | ⟨now,details,waits,response,rfl⟩
    · exact reading_provision checked
    · exact reading_deprovision
  · by_cases shaped : entry.Shapes instanceId
    · rcases shaped.cases with ⟨now,details,waits,response,rfl⟩ | ⟨now,details,waits,response,rfl⟩
      · exact absurd rfl settled
      · exact reading_update reading checked
    · exact reading_plain reading settled shaped

theorem reading_replay {settings : BrokerSettings} {instanceId : String} {history : List Entry}
    {standing : Option Standing} (rest : List Entry) (reading : Reading settings instanceId history standing)
    (checked : ∀ entry ∈ rest, Entry.Checked settings entry) :
    Reading settings instanceId (history ++ rest) (rest.foldl (Standing.advance settings instanceId) standing) := by
  induction rest generalizing history standing with
  | nil => simpa using reading
  | cons entry rest ih =>
    have later := ih (reading_advance reading (checked entry (by simp)))
      fun other member => checked other (List.mem_cons_of_mem _ member)
    simpa using later

/-- The standing that a history replays to is what is read off the history. -/
theorem reading_ofHistory {settings : BrokerSettings} (instanceId : String) {history : List Entry}
    (checked : ∀ entry ∈ history, Entry.Checked settings entry) :
    Reading settings instanceId history (Standing.ofHistory settings instanceId history) := by
  have nothing : Reading settings instanceId [] none := by
    rintro now details waits response later ⟨⟨earlier,split⟩,-⟩
    simp at split
  exact reading_replay history nothing checked

/-! ### The fields of a stored stack -/

/-- The fields of a stack that its provision alone decides, by its plan, its ids and
    its instant. -/
def CreatedBy (settings : BrokerSettings) (now : Instant) (details : ProvisionDetails) (stack : Details) : Prop :=
  ∃ plan, settings.catalog.findPlan? details.planId = some plan ∧
    stack.tags = tagsFor "Created" details.subject now ∧
    stack.disableRollback = plan.properties.disableRollback ∧
    stack.onFailure = policyOf plan.properties ∧
    stack.timeoutInMinutes = plan.properties.timeoutInMinutes

theorem createdBy_of_asked {settings : BrokerSettings} {now : Instant} {details : ProvisionDetails} {waits : Bool}
    {known : Standing} (asked : provisionRequest settings now details waits = .ok known.created) (name id : String) :
    CreatedBy settings now details (known.stack name id) := by
  obtain ⟨-,parameters,plan,-,found,same⟩ := provisionRequest_eq_ok.mp asked
  exact ⟨plan,found,by simp [Standing.stack,same],by simp [Standing.stack,same,planDetails],
    by simp [Standing.stack,same,planDetails],by simp [Standing.stack,same,planDetails]⟩

/-- An instance whose provision nothing has removed has a stack that is made by it. -/
theorem stack_of_latest {settings : BrokerSettings} {events : List Event} {instanceId : String} {now : Instant}
    {details : ProvisionDetails} {waits : Bool} {response : Response} {later : List Entry}
    (latest : Latest (Entry.Settles instanceId) (.granted now (.provision instanceId details waits) response) later
      (History.outcomes settings .empty events)) :
    ∃ stack, (History.after settings .empty events).get? (stackName settings instanceId) = some stack ∧
      CreatedBy settings now details stack := by
  have reading := reading_ofHistory instanceId (outcomes_checked settings .empty events)
  obtain ⟨id,held⟩ : Stands (stackName settings instanceId)
      ((History.after settings .empty events).get? (stackName settings instanceId))
      (Standing.ofHistory settings instanceId (History.outcomes settings .empty events)) := run_stands events ⟨"",rfl⟩
  cases replayed : Standing.ofHistory settings instanceId (History.outcomes settings .empty events) with
  | none =>
    rw [replayed] at reading
    exact absurd latest (reading now details waits response later)
  | some known =>
    rw [replayed] at held reading
    obtain ⟨time,creation,accepts,answer,after,created,asked,-⟩ := reading
    obtain ⟨same,-⟩ := latest.unique created
    injection same with event
    injection event with instant request
    injection request with _ given
    subst instant given
    exact ⟨_,held,createdBy_of_asked asked _ id⟩

end StackBroker.Broker
