import StackBroker.Stack.Details
import StackBroker.Stack.Failure

/-!
# Backends of stacks

Where stacks live. A backend answers calls on named stacks from a state of its
own, one at a time, and each call leaves it in a next state.
-/
namespace StackBroker.Stack

/-- A call on a named stack. -/
inductive Call where
  | describe (name : String)
  | create (name : String) (details : Details)
  | modify (name : String) (details : Details)
  | delete (name : String)
deriving DecidableEq, Repr

namespace Call

/-- The stack that a call is about. -/
def target : Call → String
  | .describe name | .create name _ | .modify name _ | .delete name => name

def action : Call → Action
  | .describe _ => .describe
  | .create .. => .create
  | .modify .. => .modify
  | .delete _ => .delete

/-- What a call that succeeds gives: a description its details, any other nothing. -/
abbrev Answer : Call → Type
  | .describe _ => Details
  | .create .. | .modify .. | .delete _ => Unit

end Call

/-- What a call gives, or why it fails. -/
abbrev Reply (call : Call) : Type := Except Failure call.Answer

/-- A backend over states of some type. -/
structure Backend (σ : Type) where
  /-- The name by which the backend is reported. -/
  name : String
  perform : (call : Call) → σ → Reply call × σ

end StackBroker.Stack
