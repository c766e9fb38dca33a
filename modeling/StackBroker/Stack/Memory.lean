import StackBroker.Stack.Backend

/-!
# Stacks in memory

A backend that keeps stacks in a map. A stack converges at once: creation and
modification leave it succeeded. Its id is made from its name and from the count
of the stacks there are with it. Refusals speak like the remote service.
-/
namespace StackBroker.Stack

/-- The stacks by name. -/
abbrev Memory := StringMap Details

namespace Memory

/-- The id of a stack that is the given one in count. -/
def stackId (name : String) (count : Nat) : String :=
  "memory:stack/" ++ name ++ "/" ++ toString count

/-- A new stack as it is kept. -/
def created (name : String) (count : Nat) (details : Details) : Details :=
  { details with name := name, id := stackId name count, status := .succeeded, outputs := .empty }

/-- A stack after a modification, which leaves the settings of its creation. -/
def modified (stack details : Details) : Details :=
  { stack with
    templateUrl := details.templateUrl
    capabilities := details.capabilities
    notificationArns := details.notificationArns
    parameters := details.parameters
    resourceTypes := details.resourceTypes
    stackPolicyUrl := details.stackPolicyUrl
    status := .succeeded }

/-- The failure of an action on a name that no stack has. -/
def unknown (name : String) (action : Action) : Failure :=
  Report.failure ⟨some "ValidationError","Stack with id " ++ name ++ " does not exist"⟩ action

/-- The failure of a creation under a name that a stack has. -/
def taken (name : String) : Failure :=
  Report.failure ⟨some "AlreadyExistsException","Stack [" ++ name ++ "] already exists"⟩ .create

def describe (memory : Memory) (name : String) : Except Failure Details :=
  match memory.get? name with
  | some stack => .ok stack
  | none => .error (unknown name .describe)

def create (memory : Memory) (name : String) (details : Details) : Except Failure Unit × Memory :=
  if memory.contains name then (.error (taken name),memory)
  else (.ok (),memory.insert name (created name (memory.size+1) details))

def modify (memory : Memory) (name : String) (details : Details) : Except Failure Unit × Memory :=
  match memory.get? name with
  | some stack => (.ok (),memory.insert name (modified stack details))
  | none => (.error (unknown name .modify),memory)

/-- Deletion succeeds whether or not there is such a stack. -/
def delete (memory : Memory) (name : String) : Except Failure Unit × Memory := (.ok (),memory.erase name)

def perform : (call : Call) → Memory → Reply call × Memory
  | .describe name, memory => (memory.describe name,memory)
  | .create name details, memory => memory.create name details
  | .modify name details, memory => memory.modify name details
  | .delete name, memory => memory.delete name

/-- The backend of stacks in memory. -/
def backend : Backend Memory := ⟨"memory",perform⟩

/-! ### Interventions -/

/-- Changes a stack if there is one of that name, and tells whether there is. -/
def amend (memory : Memory) (name : String) (change : Details → Details) : Bool × Memory :=
  match memory.get? name with
  | some stack => (true,memory.insert name (change stack))
  | none => (false,memory)

/-- Sets the status of a stack. -/
def setStatus (memory : Memory) (name : String) (status : Status) : Bool × Memory :=
  memory.amend name fun stack => { stack with status := status }

/-- Sets the outputs of a stack. -/
def setOutputs (memory : Memory) (name : String) (outputs : StringMap String) : Bool × Memory :=
  memory.amend name fun stack => { stack with outputs := outputs }

/-- The states that calls and interventions lead to from no stacks at all. -/
inductive Reachable : Memory → Prop where
  | start : Reachable .empty
  | perform {memory : Memory} (call : Call) : Reachable memory → Reachable (memory.perform call).2
  | setStatus {memory : Memory} (name : String) (status : Status) :
    Reachable memory → Reachable (memory.setStatus name status).2
  | setOutputs {memory : Memory} (name : String) (outputs : StringMap String) :
    Reachable memory → Reachable (memory.setOutputs name outputs).2

end Memory
end StackBroker.Stack
