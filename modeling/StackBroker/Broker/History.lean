import StackBroker.Broker.Operation
import StackBroker.Stack.Memory

/-!
# Histories

What befalls the stacks in memory in the course of time: requests, each at its
instant, and interventions past the broker. A history is carried out event by
event, each from the state that the one before it leaves. What is granted in a
history determines the standing of an instance, without regard to any state.
-/
namespace StackBroker.Broker
open StackBroker.Stack (Details Memory Status)

/-- Something that happens to the stacks in memory. -/
inductive Event where
  | request (now : Instant) (request : Request)
  | setStatus (name : String) (status : Status)
  | setOutputs (name : String) (outputs : StringMap String)
deriving Repr

/-- What comes of an event. -/
inductive Outcome where
  | replied (reply : Except Refusal Response)
  /-- Whether there was a stack to intervene on. -/
  | amended (found : Bool)

/-- An event in a state, with the state it leaves. -/
def Event.run (settings : BrokerSettings) (memory : Memory) : Event → Outcome × Memory
  | .request now asked => ((handle settings now asked).run Memory.backend memory).map .replied id
  | .setStatus name status => (memory.setStatus name status).map .amended id
  | .setOutputs name outputs => (memory.setOutputs name outputs).map .amended id

namespace History

/-- The events of a history with what comes of each, and the state at the end. -/
def run (settings : BrokerSettings) (memory : Memory) : List Event → List (Event × Outcome) × Memory
  | [] => ([],memory)
  | event :: rest =>
    let (outcome,next) := event.run settings memory
    let (later,last) := run settings next rest
    ((event,outcome) :: later,last)

/-- The events of a history with what comes of each. -/
def outcomes (settings : BrokerSettings) (memory : Memory) (events : List Event) : List (Event × Outcome) :=
  (run settings memory events).1

/-- The state at the end of a history. -/
def after (settings : BrokerSettings) (memory : Memory) (events : List Event) : Memory :=
  (run settings memory events).2

end History

/-- What is known of an instance from the events alone. -/
structure Standing where
  /-- The stack that its provision asked for. -/
  created : Details
  /-- The stack that the latest provision or update asked for. -/
  latest : Details
  outputs : StringMap String
  status : Status
deriving DecidableEq, Repr

namespace Standing

/-- The standing after a granted request about the instance. -/
def granted (settings : BrokerSettings) (now : Instant) (standing : Option Standing) : Request → Option Standing
  | .provision _ details waits =>
    match provisionRequest settings now details waits with
    | .ok asked => some ⟨asked,asked,.empty,.succeeded⟩
    | .error _ => standing
  | .update _ details waits =>
    match updateRequest settings details waits with
    | .ok asked => standing.map fun known => { known with latest := asked, status := .succeeded }
    | .error _ => standing
  | .deprovision .. => none
  | .bind .. | .unbind .. | .lastOperation _ => standing

/-- The standing of an instance after an event, given what came of it. -/
def advance (settings : BrokerSettings) (instanceId : String) (standing : Option Standing) :
    Event × Outcome → Option Standing
  | (.request now request,.replied (.ok _)) =>
    if request.instanceId = instanceId then granted settings now standing request else standing
  | (.setStatus name status,_) =>
    if name = stackName settings instanceId then standing.map fun known => { known with status := status }
    else standing
  | (.setOutputs name outputs,_) =>
    if name = stackName settings instanceId then standing.map fun known => { known with outputs := outputs }
    else standing
  | _ => standing

/-- The standing of an instance at the end of a history that begins without stacks. -/
def ofHistory (settings : BrokerSettings) (instanceId : String) (history : List (Event × Outcome)) :
    Option Standing :=
  history.foldl (advance settings instanceId) none

end Standing
end StackBroker.Broker
