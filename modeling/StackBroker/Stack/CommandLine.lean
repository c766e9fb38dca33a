import StackBroker.Stack.Backend
import StackBroker.Stack.ErrorLine
import StackBroker.Stack.Listing

/-!
# Stacks through a command line

A backend that runs an executable once for each call and reads what it prints.
The executable is a parameter: a function from arguments to a run, over a state
that its runs may change.
-/
namespace StackBroker.Stack

/-- What became of running the executable. -/
inductive Run where
  /-- It did not start. -/
  | unstarted (message : String)
  | finished (exitCode : Int) (stdout stderr : List UInt8)
deriving DecidableEq, Repr

/-- What every run is told: the region, and the profile if one is set. -/
structure Account where
  region : String
  profile : Option String
deriving DecidableEq, Repr

namespace CommandLine

/-- The command for a call and its arguments. -/
def command : Call → List String
  | .describe name => "describe-stacks" :: Arguments.named name
  | .create name details => "create-stack" :: Arguments.create name details
  | .modify name details => "update-stack" :: Arguments.update name details
  | .delete name => "delete-stack" :: Arguments.named name

/-- All arguments of the run for a call. -/
def arguments (account : Account) (call : Call) : List String :=
  "cloudformation" :: command call ++ ["--region",account.region,"--output","json"] ++
    match account.profile with
    | none => []
    | some profile => ["--profile",profile]

/-- What a run that was a success printed, or the failure of an action. -/
def outcome (action : Action) : Run → Except Failure String
  | .unstarted message => .error (.unstarted message)
  | .finished exitCode stdout stderr =>
    if exitCode = 0 then .ok (Utf8.decodeLossy stdout)
    else .error ((ErrorLine.report (Utf8.decodeLossy stderr)).failure action)

/-- What a run means for the call it was made for. Only a description reads what
    was printed. -/
def interpret (run : Run) : (call : Call) → Reply call
  | .describe name =>
    match outcome .describe run with
    | .error failure => .error failure
    | .ok stdout => Listing.describe stdout name
  | .create .. => (outcome .create run).map fun _ => ()
  | .modify .. => (outcome .modify run).map fun _ => ()
  | .delete _ => (outcome .delete run).map fun _ => ()

/-- An argument that no process can be started with. -/
def hasNul (arguments : List String) : Bool :=
  arguments.any fun argument => argument.toList.contains '\x00'

/-- A run of the executable, which does not start with an argument that holds a
    zero character. -/
def launch {σ : Type} (execute : List String → σ → Run × σ) (arguments : List String) (state : σ) : Run × σ :=
  if hasNul arguments then (.unstarted "nul byte found in provided data",state)
  else execute arguments state

/-- The backend of stacks that an executable works on. -/
def backend {σ : Type} (account : Account) (execute : List String → σ → Run × σ) : Backend σ where
  name := "aws-cli"
  perform call state :=
    let (run,next) := launch execute (arguments account call) state
    (interpret run call,next)

/-- The arguments with which the executable is asked whether it is there. -/
def probe : List String := ["--version"]

/-- Whether the executable runs at all. -/
def isAvailable : Run → Bool
  | .unstarted _ => false
  | .finished exitCode _ _ => exitCode = 0

end CommandLine
end StackBroker.Stack
