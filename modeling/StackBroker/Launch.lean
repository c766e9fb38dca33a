import StackBroker.Options
import StackBroker.Settings

/-!
# Launch

What the program does when it is started, up to the point where it listens: it
follows a wish, refuses the command line, refuses the configuration, or is ready
to listen. What it logs on the way hangs on the configured level.
-/
namespace StackBroker

/-- How far a start of the program gets. -/
inductive Launch where
  /-- A wish for help, or for the version, was followed. -/
  | informed (version : Bool)
  | misused (stop : Options.Stop)
  | unconfigured (options : Options) (fault : SettingsFault)
  /-- Ready to listen. -/
  | ready (options : Options) (settings : ServerSettings)
deriving Repr

namespace Launch

/-- The line that tells the version. -/
def versionLine : String := "cloudformation-broker 0.1.0"

/-- The executable if none is given. -/
def defaultExecutable : String := "aws"

/-- A start with some arguments, where files can be read. -/
def start (arguments : List String) (readFile : String → Option (List UInt8)) : Launch :=
  match Options.parse arguments with
  | .error .help => .informed false
  | .error .version => .informed true
  | .error stop => .misused stop
  | .ok options =>
    match ServerSettings.load (readFile options.config) with
    | .error fault => .unconfigured options fault
    | .ok settings => .ready options settings

/-- The executable that the backend of a start runs, if it runs one. -/
def executable? : Launch → Option String
  | .ready options _ =>
    match options.backend with
    | .executable => some (options.executable.getD defaultExecutable)
    | .memory => none
  | _ => none

/-- The level at which a start logs; settings that load always have one. -/
def level : Launch → LogLevel
  | .ready _ settings => settings.level?.getD .info
  | _ => .error

/-- The start is logged. -/
def logsStart (launch : Launch) : Bool := launch.level.logsInfo

/-- It is logged that the backend is not available, given whether an executable is. -/
def warns (launch : Launch) (isAvailable : String → Bool) : Bool :=
  match launch.executable? with
  | some executable => launch.level.logsWarnings && !isAvailable executable
  | none => false

/-- The exit code of a start, which is a failure also where listening fails. -/
def exitCode : Launch → UInt32
  | .informed _ => 0
  | .misused _ => 2
  | .unconfigured .. | .ready .. => 1

end Launch
end StackBroker
