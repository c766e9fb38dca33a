import StackBroker.Broker.History
import StackBroker.StringMap.Lookup

/-!
What a request does to the stacks in memory. A call reads and changes the one
stack that it names, so that memory is a row of slots, each with a stack or with
nothing (`perform_slot`, `perform_frame`). A request makes no call but on the stack
of its instance (`handle_about`). What comes of it is one of seven effects on the
slot of that instance, and no other slot is touched (`handle_effect`,
`handle_frame`, `event_frame`).
-/
namespace StackBroker.Stack

/-- The place of a name in memory: the stack of that name, or nothing. -/
abbrev Slot := Option Details

namespace Slot

/-- A call on a slot. A stack that is created gets an id with the given count. -/
def perform (count : Nat) : (call : Call) → Slot → Reply call × Slot
  | .describe _,some stack => (.ok stack,some stack)
  | .describe name,none => (.error (Memory.unknown name .describe),none)
  | .create name _,some stack => (.error (Memory.taken name),some stack)
  | .create name details,none => (.ok (),some (Memory.created name count details))
  | .modify _ details,some stack => (.ok (),some (Memory.modified stack details))
  | .modify name _,none => (.error (Memory.unknown name .modify),none)
  | .delete _,_ => (.ok (),none)

/-- One slot as a backend of its own. -/
def backend (count : Nat) : Backend Slot := ⟨Memory.backend.name,perform count⟩

end Slot

namespace Memory

/-! ### Calls and interventions by slots -/

/-- A call does in memory what it does in the slot of its target. -/
theorem perform_slot (memory : Memory) (call : Call) :
    Slot.perform (memory.size+1) call (memory.get? call.target) =
      ((memory.perform call).1,(memory.perform call).2.get? call.target) := by
  cases call with
  | describe name =>
    cases found : memory.get? name <;> simp [Call.target,Slot.perform,perform,describe,found]
  | create name details =>
    cases found : memory.get? name with
    | none => simp [Call.target,Slot.perform,perform,create,StringMap.contains,found]
    | some stack => simp [Call.target,Slot.perform,perform,create,StringMap.contains,found]
  | modify name details =>
    cases found : memory.get? name <;> simp [Call.target,Slot.perform,perform,modify,found]
  | delete name => simp [Call.target,Slot.perform,perform,delete]

/-- A call leaves every stack alone but the one that it names. -/
theorem perform_frame (memory : Memory) (call : Call) {name : String} (other : name ≠ call.target) :
    (memory.perform call).2.get? name = memory.get? name := by
  cases call with
  | describe target => rfl
  | create target details =>
    simp only [Call.target] at other
    simp only [perform,create]
    split
    · rfl
    · simp [other]
  | modify target details =>
    simp only [Call.target] at other
    simp only [perform,modify]
    split
    · simp [other]
    · rfl
  | delete target =>
    simp only [Call.target] at other
    simp [perform,delete,other]

/-- An intervention tells whether there is a stack of its name. -/
theorem amend_found (memory : Memory) (name : String) (change : Details → Details) :
    (memory.amend name change).1 = (memory.get? name).isSome := by
  unfold amend
  cases memory.get? name <;> rfl

/-- An intervention changes the one stack of its name, if there is one. -/
@[simp] theorem get?_amend (memory : Memory) (name other : String) (change : Details → Details) :
    (memory.amend name change).2.get? other =
      if other = name then (memory.get? other).map change else memory.get? other := by
  unfold amend
  by_cases same : other = name
  · cases found : memory.get? name <;> simp [same,found]
  · cases memory.get? name <;> simp [same]

end Memory
end StackBroker.Stack

namespace StackBroker.Broker
open StackBroker.Stack (Backend Call Details Memory Reply Slot)

/-- Instances with the same stack are the same instance. -/
theorem stackName_injective {settings : BrokerSettings} {first second : String}
    (same : stackName settings first = stackName settings second) : first = second := by
  unfold stackName at same
  exact String.append_right_inj _ |>.mp same

/-- Settings with one service, which has a small and a large plan. -/
def sampleSettings : BrokerSettings :=
  let plan (id url : String) : Plan :=
    { Plan.blank with id := id, properties := { StackProperties.blank with templateUrl := url } }
  let service := { Service.blank with
    id := "db"
    planUpdateable := true
    plans := [plan "small" "https://templates/small.json",plan "large" "https://templates/large.json"] }
  { BrokerSettings.blank with stackPrefix := "cf", catalog := ⟨[service]⟩ }

/-! ### What requests ask for -/

theorem requireAsync_eq_ok {waits : Bool} : requireAsync waits = .ok () ↔ waits = true := by
  cases waits <;> simp [requireAsync]

theorem callerParameters_closed (raw : Option Json) : callerParameters false raw = .ok .empty := rfl

theorem callerParameters_open (raw : Option Json) :
    callerParameters true raw = (Parameters.decode raw).mapError .invalidParameters := rfl

/-- A provision that passes its checks asks for its plan under its tags. -/
theorem provisionRequest_eq_ok {settings : BrokerSettings} {now : Instant} {details : ProvisionDetails}
    {waits : Bool} {asked : Details} : provisionRequest settings now details waits = .ok asked ↔
      waits = true ∧ ∃ parameters plan,
        callerParameters settings.allowProvisionParameters details.parameters = .ok parameters ∧
        settings.catalog.findPlan? details.planId = some plan ∧
        asked = { planDetails plan parameters with tags := tagsFor "Created" details.subject now } := by
  unfold provisionRequest requireAsync requirePlan
  cases waits with
  | false => simp [Bind.bind,Except.bind]
  | true =>
    cases callerParameters settings.allowProvisionParameters details.parameters with
    | error refusal => simp [Bind.bind,Except.bind]
    | ok parameters =>
      cases settings.catalog.findPlan? details.planId with
      | none => simp [Bind.bind,Except.bind]
      | some plan =>
        simp only [Bind.bind,Except.bind,if_true,Except.ok.injEq,Option.some.injEq,true_and,exists_and_left,
          exists_eq_left']
        exact eq_comm

/-- An update that passes its checks asks for its plan, and its service lets
    instances change their plan. -/
theorem updateRequest_eq_ok {settings : BrokerSettings} {details : UpdateDetails} {waits : Bool} {asked : Details} :
    updateRequest settings details waits = .ok asked ↔
      waits = true ∧ ∃ parameters service plan,
        callerParameters settings.allowUpdateParameters details.parameters = .ok parameters ∧
        settings.catalog.findService? details.serviceId = some service ∧ service.planUpdateable = true ∧
        settings.catalog.findPlan? details.planId = some plan ∧ asked = planDetails plan parameters := by
  unfold updateRequest requireAsync requireService requireUpdateable requirePlan
  cases waits with
  | false => simp [Bind.bind,Except.bind]
  | true =>
    cases callerParameters settings.allowUpdateParameters details.parameters with
    | error refusal => simp [Bind.bind,Except.bind]
    | ok parameters =>
      cases settings.catalog.findService? details.serviceId with
      | none => simp [Bind.bind,Except.bind]
      | some service =>
        cases changes : service.planUpdateable with
        | false => simp [Bind.bind,Except.bind,changes]
        | true =>
          cases settings.catalog.findPlan? details.planId with
          | none => simp [Bind.bind,Except.bind,changes]
          | some plan =>
            simp only [Bind.bind,Except.bind,changes,if_true,Except.ok.injEq,Option.some.injEq,true_and,
              exists_and_left,exists_eq_left']
            exact eq_comm

/-- A bind that passes its checks names a service with bindings. -/
theorem bindCheck_eq_ok {settings : BrokerSettings} {details : BindDetails} :
    bindCheck settings details = .ok () ↔
      ∃ service, settings.catalog.findService? details.serviceId = some service ∧ service.bindable = true := by
  unfold bindCheck requireService requireBindable
  cases settings.catalog.findService? details.serviceId with
  | none => simp [Bind.bind,Except.bind]
  | some service => cases bound : service.bindable <;> simp [Bind.bind,Except.bind,bound]

/-! ### Steps by slots -/

namespace Step
variable {α β σ : Type}

/-- The step makes no call but on the stack of one name. -/
def About (name : String) (step : Step α) : Prop := ∀ call ∈ step.request?, call.target = name

theorem about_answer (name : String) (value : α) : (Step.answer value).About name := by
  intro call made
  simp [request?] at made

theorem about_call (request : Call) (resume : Reply request → α) : (Step.call request resume).About request.target := by
  intro call made
  simp only [request?,Option.mem_some] at made
  rw [made]

theorem about_map {name : String} {step : Step α} (about : step.About name) (change : α → β) :
    (step.map change).About name := by
  cases step with
  | answer value => exact about_answer name (change value)
  | call request resume => exact about

theorem run_map (backend : Backend σ) (state : σ) (step : Step α) (change : α → β) :
    (step.map change).run backend state = (step.run backend state).map change id := by
  cases step <;> rfl

/-- A step about a name does in memory what it does in the slot of that name. -/
theorem run_slot {name : String} {step : Step α} (about : step.About name) (memory : Memory) :
    step.run (Slot.backend (memory.size+1)) (memory.get? name) =
      ((step.run Memory.backend memory).1,(step.run Memory.backend memory).2.get? name) := by
  cases step with
  | answer value => rfl
  | call request resume =>
    obtain rfl : request.target = name := about request rfl
    simp only [run,Slot.backend,Memory.backend,Memory.perform_slot,Prod.map]
    rfl

/-- A step about a name leaves every other stack alone. -/
theorem run_frame {name other : String} {step : Step α} (about : step.About name) (memory : Memory)
    (differ : other ≠ name) : (step.run Memory.backend memory).2.get? other = memory.get? other := by
  cases step with
  | answer value => rfl
  | call request resume =>
    obtain rfl : request.target = name := about request rfl
    exact Memory.perform_frame memory request differ

end Step

/-! ### Requests by slots -/

/-- What comes of a request in the slot of its instance, where a stack that is
    created gets an id with the given count: the stack there before, the answer,
    and the stack there afterwards. -/
inductive Effect (settings : BrokerSettings) (now : Instant) (count : Nat) :
    Request → Slot → Except Refusal Response → Slot → Prop where
  | refused {request : Request} {slot : Slot} (refusal : Refusal) :
    Effect settings now count request slot (.error refusal) slot
  | provisioned {instanceId : String} {details : ProvisionDetails} {waits : Bool} {asked : Details}
    (allowed : provisionRequest settings now details waits = .ok asked) :
    Effect settings now count (.provision instanceId details waits) none (.ok (.provisioned ⟨none,true⟩))
      (some (Memory.created (stackName settings instanceId) count asked))
  | updated {instanceId : String} {details : UpdateDetails} {waits : Bool} {asked stack : Details}
    (allowed : updateRequest settings details waits = .ok asked) :
    Effect settings now count (.update instanceId details waits) (some stack) (.ok (.updated ⟨true⟩))
      (some (Memory.modified stack asked))
  | deprovisioned {instanceId : String} {details : DeprovisionDetails} {waits : Bool} {slot : Slot}
    (allowed : requireAsync waits = .ok ()) :
    Effect settings now count (.deprovision instanceId details waits) slot (.ok (.deprovisioned ⟨true⟩)) none
  | bound {instanceId bindingId : String} {details : BindDetails} {stack : Details}
    (allowed : bindCheck settings details = .ok ()) :
    Effect settings now count (.bind instanceId bindingId details) (some stack) (.ok (.bound ⟨stack.outputs⟩))
      (some stack)
  | unbound {instanceId bindingId : String} {details : UnbindDetails} {slot : Slot} :
    Effect settings now count (.unbind instanceId bindingId details) slot (.ok .unbound) slot
  | told {instanceId : String} {stack : Details} :
    Effect settings now count (.lastOperation instanceId) (some stack)
      (.ok (.lastOperation (describeState (stackName settings instanceId) stack))) (some stack)

/-- A request makes no call but on the stack of its instance. -/
theorem handle_about (settings : BrokerSettings) (now : Instant) (request : Request) :
    (handle settings now request).About (stackName settings request.instanceId) := by
  cases request with
  | provision instanceId details waits =>
    refine Step.about_map ?_ _
    unfold provision
    split
    · exact Step.about_answer _ _
    · exact Step.about_call _ _
  | update instanceId details waits =>
    refine Step.about_map ?_ _
    unfold update
    split
    · exact Step.about_answer _ _
    · exact Step.about_call _ _
  | deprovision instanceId details waits =>
    refine Step.about_map ?_ _
    unfold deprovision
    split
    · exact Step.about_answer _ _
    · exact Step.about_call _ _
  | bind instanceId bindingId details =>
    refine Step.about_map ?_ _
    unfold bind
    split
    · exact Step.about_answer _ _
    · exact Step.about_call _ _
  | unbind instanceId bindingId details => exact Step.about_answer _ _
  | lastOperation instanceId => exact Step.about_map (Step.about_call _ _) _

/-- What a request comes to on a slot is an effect. -/
theorem handle_slot (settings : BrokerSettings) (now : Instant) (count : Nat) (request : Request) (slot : Slot) :
    Effect settings now count request slot ((handle settings now request).run (Slot.backend count) slot).1
      ((handle settings now request).run (Slot.backend count) slot).2 := by
  cases request with
  | provision instanceId details waits =>
    rw [handle,Step.run_map,provision]
    cases allowed : provisionRequest settings now details waits with
    | error refusal => exact .refused refusal
    | ok asked =>
      cases slot with
      | none => exact .provisioned allowed
      | some stack => exact .refused _
  | update instanceId details waits =>
    rw [handle,Step.run_map,update]
    cases allowed : updateRequest settings details waits with
    | error refusal => exact .refused refusal
    | ok asked =>
      cases slot with
      | none => exact .refused _
      | some stack => exact .updated allowed
  | deprovision instanceId details waits =>
    rw [handle,Step.run_map,deprovision]
    cases allowed : requireAsync waits with
    | error refusal => exact .refused refusal
    | ok _ => exact .deprovisioned allowed
  | bind instanceId bindingId details =>
    rw [handle,Step.run_map,bind]
    cases allowed : bindCheck settings details with
    | error refusal => exact .refused refusal
    | ok _ =>
      cases slot with
      | none => exact .refused _
      | some stack => exact .bound allowed
  | unbind instanceId bindingId details => exact .unbound
  | lastOperation instanceId =>
    cases slot with
    | none => exact .refused _
    | some stack => exact .told

/-- What a request comes to in memory is an effect on the slot of its instance. -/
theorem handle_effect (settings : BrokerSettings) (now : Instant) (request : Request) (memory : Memory) :
    Effect settings now (memory.size+1) request (memory.get? (stackName settings request.instanceId))
      ((handle settings now request).run Memory.backend memory).1
      (((handle settings now request).run Memory.backend memory).2.get? (stackName settings request.instanceId)) := by
  have effect := handle_slot settings now (memory.size+1) request
    (memory.get? (stackName settings request.instanceId))
  rwa [Step.run_slot (handle_about settings now request)] at effect

/-- A request leaves the stacks of other instances alone. -/
theorem handle_frame (settings : BrokerSettings) (now : Instant) (request : Request) (memory : Memory) {name : String}
    (differ : name ≠ stackName settings request.instanceId) :
    ((handle settings now request).run Memory.backend memory).2.get? name = memory.get? name :=
  Step.run_frame (handle_about settings now request) memory differ

/-- A request that leaves the slot of its instance as it was leaves the whole
    memory as it was. -/
theorem handle_unchanged {settings : BrokerSettings} {now : Instant} {request : Request} {memory : Memory}
    (same : ((handle settings now request).run Memory.backend memory).2.get? (stackName settings request.instanceId) =
      memory.get? (stackName settings request.instanceId)) :
    ((handle settings now request).run Memory.backend memory).2 = memory := by
  refine StringMap.ext_get? fun name => ?_
  by_cases own : name = stackName settings request.instanceId
  · rw [own,same]
  · exact handle_frame settings now request memory own

/-! ### Events -/

/-- An event is about an instance: a request for it, or an intervention on its stack. -/
def Event.concerns (settings : BrokerSettings) (instanceId : String) : Event → Bool
  | .request _ asked => asked.instanceId == instanceId
  | .setStatus name _ | .setOutputs name _ => name == stackName settings instanceId

/-- An event leaves the stacks of the instances that it is not about alone. -/
theorem event_frame {settings : BrokerSettings} {instanceId : String} {event : Event}
    (elsewhere : event.concerns settings instanceId = false) (memory : Memory) :
    (event.run settings memory).2.get? (stackName settings instanceId) =
      memory.get? (stackName settings instanceId) := by
  cases event with
  | request now request =>
    have apart : stackName settings instanceId ≠ stackName settings request.instanceId := by
      intro same
      simp [Event.concerns,stackName_injective same] at elsewhere
    exact handle_frame settings now request memory apart
  | setStatus name status =>
    have apart : stackName settings instanceId ≠ name := by
      rintro rfl
      simp [Event.concerns] at elsewhere
    simp [Event.run,Memory.setStatus,apart]
  | setOutputs name outputs =>
    have apart : stackName settings instanceId ≠ name := by
      rintro rfl
      simp [Event.concerns] at elsewhere
    simp [Event.run,Memory.setOutputs,apart]

end StackBroker.Broker
