import StackBroker.Parameters
import StackBroker.Stack.Failure

/-!
# Refusals

Why a broker refuses a request. A failure of the backend is passed on with its
own words, save that an operation on an instance whose stack does not exist is
refused because there is no such instance.
-/
namespace StackBroker.Broker

/-- Why a request is refused. -/
inductive Refusal where
  /-- The caller does not wait for an operation that goes on after the answer. -/
  | asyncRequired
  | instanceDoesNotExist
  | instanceNotUpdateable
  | instanceNotBindable
  | serviceNotFound (id : String)
  | planNotFound (id : String)
  | invalidParameters (reason : BadParameters)
  | stack (failure : Stack.Failure)
deriving DecidableEq, Repr

namespace Refusal

def message : Refusal → String
  | .asyncRequired => "This service plan requires client support for asynchronous service operations."
  | .instanceDoesNotExist => "instance does not exist"
  | .instanceNotUpdateable => "instance is not updateable"
  | .instanceNotBindable => "instance is not bindable"
  | .serviceNotFound id => "Service '" ++ id ++ "' not found"
  | .planNotFound id => "Service Plan '" ++ id ++ "' not found"
  | .invalidParameters reason => "Invalid parameters: " ++ reason.message
  | .stack failure => failure.message

/-- The refusal of an operation on an instance that a failure of its stack means. -/
def ofInstance : Stack.Failure → Refusal
  | .doesNotExist => .instanceDoesNotExist
  | failure => .stack failure

end Refusal
end StackBroker.Broker
