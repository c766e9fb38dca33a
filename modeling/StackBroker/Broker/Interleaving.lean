import StackBroker.Broker.Operation

/-!
# Interleavings

Requests that are under way at the same time. Each goes through its checks, its
call if it has one, and its answer; between any two of these moves the others may
move. A call itself happens at one moment. A schedule says whose move is next.
-/
namespace StackBroker.Broker
open StackBroker.Stack (Backend)

/-- How far a request has come. -/
inductive Progress where
  /-- It has not been looked at. -/
  | arrived (now : Instant) (request : Request)
  /-- Its checks are done. -/
  | checked (step : Step (Except Refusal Response))
  /-- Its call is done, and the answer to it is known. -/
  | called (reply : Except Refusal Response)
  | answered (reply : Except Refusal Response)

namespace Progress
variable {σ : Type}

/-- The next move of a request. Only a call touches the state of the backend. -/
def move (settings : BrokerSettings) (backend : Backend σ) (state : σ) : Progress → Progress × σ
  | .arrived now request => (.checked (handle settings now request),state)
  | .checked (.answer reply) => (.called reply,state)
  | .checked (.call request resume) =>
    ((backend.perform request state).map (fun reply => .called (resume reply)) id)
  | .called reply | .answered reply => (.answered reply,state)

/-- The next move of a request is a call. -/
def calls : Progress → Bool
  | .checked (.call ..) => true
  | _ => false

/-- The answer of a request that has come to its end. -/
def reply? : Progress → Option (Except Refusal Response)
  | .answered reply => some reply
  | _ => none

end Progress

/-- Requests under way over one state. -/
structure Interleaving (σ : Type) where
  requests : List Progress
  state : σ

namespace Interleaving
variable {σ : Type}

/-- No request has been looked at. -/
def start (requests : List (Instant × Request)) (state : σ) : Interleaving σ :=
  ⟨requests.map fun (now,request) => .arrived now request,state⟩

/-- The move of the request at a position. -/
def move (settings : BrokerSettings) (backend : Backend σ) (now : Interleaving σ) (position : Nat) :
    Interleaving σ :=
  match now.requests[position]? with
  | none => now
  | some progress =>
    let (next,state) := progress.move settings backend now.state
    ⟨now.requests.set position next,state⟩

/-- The moves of a schedule. -/
def run (settings : BrokerSettings) (backend : Backend σ) (now : Interleaving σ) (schedule : List Nat) :
    Interleaving σ :=
  schedule.foldl (move settings backend) now

/-- The positions of a schedule whose moves are calls, in their order. -/
def callOrder (settings : BrokerSettings) (backend : Backend σ) : Interleaving σ → List Nat → List Nat
  | _, [] => []
  | now, position :: rest =>
    let later := callOrder settings backend (now.move settings backend position) rest
    if ((now.requests[position]?).map Progress.calls).getD false then position :: later else later

/-- The answers, once every request has one. -/
def replies? (now : Interleaving σ) : Option (List (Except Refusal Response)) :=
  now.requests.mapM Progress.reply?

end Interleaving

/-- Requests one after the other, each from the state that the one before leaves. -/
def runInTurn {σ : Type} (settings : BrokerSettings) (backend : Backend σ) (state : σ) :
    List (Instant × Request) → List (Except Refusal Response) × σ
  | [] => ([],state)
  | (now,request) :: rest =>
    let (reply,next) := (handle settings now request).run backend state
    let (later,last) := runInTurn settings backend next rest
    (reply :: later,last)

end StackBroker.Broker
