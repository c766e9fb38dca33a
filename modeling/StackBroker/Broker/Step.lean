import StackBroker.Stack.Backend

/-!
# Steps

What an operation does once its checks are done: it answers at once, or it makes
exactly one call on a stack and answers from the reply.
-/
namespace StackBroker.Broker
open StackBroker.Stack (Call Reply Backend)

/-- An answer, or one call and the answer to each of its replies. -/
inductive Step (α : Type) where
  | answer (value : α)
  | call (request : Call) (resume : Reply request → α)

namespace Step
variable {α β σ : Type}

/-- The step with its answer changed. -/
def map (change : α → β) : Step α → Step β
  | .answer value => .answer (change value)
  | .call request resume => .call request (fun reply => change (resume reply))

/-- The call that the step makes, if any. -/
def request? : Step α → Option Call
  | .answer _ => none
  | .call request _ => some request

/-- Runs the step on a backend in some state. -/
def run (backend : Backend σ) (state : σ) : Step α → α × σ
  | .answer value => (value,state)
  | .call request resume => ((backend.perform request state).map resume id)

end Step
end StackBroker.Broker
