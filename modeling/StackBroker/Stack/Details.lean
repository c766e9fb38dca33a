import StackBroker.Catalog.Properties

/-!
# Stacks

The state of a stack as far as a broker cares, and its details, which are both
what is asked for when a stack is made or changed and what is told of one.
-/
namespace StackBroker.Stack

/-- The state of a stack. -/
inductive Status where
  | inProgress
  | failed
  | succeeded
deriving DecidableEq, Repr

namespace Status

def text : Status → String
  | .inProgress => "in progress"
  | .failed => "failed"
  | .succeeded => "succeeded"

/-- The raw states of stacks that reached their goal. -/
def settledStates : List String := ["CREATE_COMPLETE","UPDATE_COMPLETE","DELETE_COMPLETE"]

/-- The raw states of stacks that are still at work. -/
def workingStates : List String :=
  ["CREATE_IN_PROGRESS","DELETE_IN_PROGRESS","UPDATE_IN_PROGRESS","ROLLBACK_IN_PROGRESS",
    "UPDATE_COMPLETE_CLEANUP_IN_PROGRESS","UPDATE_ROLLBACK_COMPLETE_CLEANUP_IN_PROGRESS",
    "UPDATE_ROLLBACK_IN_PROGRESS"]

/-- The state that a raw state falls under; what is neither settled nor at work
    has failed. -/
def ofRaw (raw : String) : Status :=
  if settledStates.contains raw then .succeeded
  else if workingStates.contains raw then .inProgress
  else .failed

end Status

/-- The details of a stack. What is empty is not set. -/
structure Details where
  name : String
  capabilities : List String
  disableRollback : Bool
  description : String
  notificationArns : List String
  onFailure : Option FailurePolicy
  outputs : StringMap String
  parameters : StringMap String
  resourceTypes : List String
  id : String
  stackPolicyUrl : Option String
  status : Status
  tags : StringMap String
  templateUrl : String
  timeoutInMinutes : Option UInt32
deriving DecidableEq, Repr

/-- Nothing is set. -/
def Details.blank : Details :=
  ⟨"",[],false,"",[],none,.empty,.empty,[],"",none,.failed,.empty,"",none⟩

end StackBroker.Stack
