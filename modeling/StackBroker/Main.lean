import StackBroker.Launch

/-!
# The program

The outer layer of the command line: it reads the configuration file, prints what
a start comes to, and gives the exit code. Listening is left to a server around
the library.
-/
namespace StackBroker

/-- The usage of the program. -/
def usage : String :=
  "Service broker that provisions CloudFormation stacks\n\n" ++
  "Usage: cloudformation-broker [OPTIONS] --config <CONFIG>\n\n" ++
  "Options:\n" ++
  "  -c, --config <CONFIG>            Path to the JSON configuration file\n" ++
  "  -p, --port <PORT>                [default: 3000]\n" ++
  "      --backend <BACKEND>          aws-cli or memory [default: aws-cli]\n" ++
  "      --aws-cli <AWS_CLI>          Path of the aws executable\n" ++
  "      --aws-profile <AWS_PROFILE>  Named AWS profile passed to every aws call\n" ++
  "  -h, --help                       Print help\n" ++
  "  -V, --version                    Print version"

/-- The words for a command line that is refused. -/
def Options.Stop.message : Options.Stop → String
  | .unknownArgument => "unexpected argument found"
  | .missingRequired => "the required argument --config <CONFIG> was not provided"
  | .invalidValue => "a value is missing or not possible"
  | .valueValidation => "the port is no number from 0 to 65535"
  | .conflict => "an argument cannot be used multiple times"
  | .tooManyValues => "a flag takes no value"
  | .help | .version => usage

/-- The content of a file, if it can be read. -/
def readFile (path : String) : IO (Option (List UInt8)) := do
  try
    let content ← IO.FS.readBinFile path
    return some content.toList
  catch _ => return none

/-- Prints what a start comes to. -/
def report (launch : Launch) : IO UInt32 := do
  match launch with
  | .informed true => IO.println Launch.versionLine
  | .informed false => IO.println usage
  | .misused stop => IO.eprintln ("error: " ++ stop.message)
  | .unconfigured options fault =>
    IO.eprintln ("Error: Failed to load configuration from " ++ options.config ++ "\n\nCaused by:\n    " ++
      fault.message)
  | .ready options settings =>
    if launch.logsStart then
      IO.println ("Starting CloudFormation service broker backend=" ++ options.backend.text ++ " region=" ++
        settings.broker.region ++ " prefix=" ++ settings.broker.stackPrefix ++ " services=" ++
        toString settings.broker.catalog.services.length)
    IO.eprintln ("Error: Failed to bind port " ++ toString options.port)
  return launch.exitCode

end StackBroker

/-- Starts the program. -/
def main (arguments : List String) : IO UInt32 := do
  let config := match StackBroker.Options.parse arguments with
    | .ok options => options.config
    | .error _ => ""
  let file ← StackBroker.readFile config
  StackBroker.report (StackBroker.Launch.start arguments fun _ => file)
