/-!
# Options

The command line of the program. Arguments are read from the first to the last.
An option with its value in the same argument takes effect at once; one whose
value is to come takes effect when the next known option is met or the arguments
end. An unknown argument ends the reading before anything pending is looked at.
-/
namespace StackBroker

/-- Where stacks live. -/
inductive BackendKind where
  | executable
  | memory
deriving DecidableEq, Repr

def BackendKind.text : BackendKind → String
  | .executable => "aws-cli"
  | .memory => "memory"

def BackendKind.ofText? (text : String) : Option BackendKind :=
  if text = "aws-cli" then some .executable else if text = "memory" then some .memory else none

/-- What the command line says. -/
structure Options where
  config : String
  port : Nat
  backend : BackendKind
  executable : Option String
  profile : Option String
deriving DecidableEq, Repr

namespace Options

/-- Why the command line gives no options. The last two are wishes and no faults. -/
inductive Stop where
  | unknownArgument
  | missingRequired
  /-- A value is missing, empty, or none of the possible ones. -/
  | invalidValue
  /-- A value is no number in range. -/
  | valueValidation
  /-- An option comes twice. -/
  | conflict
  /-- A flag has a value. -/
  | tooManyValues
  | help
  | version
deriving DecidableEq, Repr

/-- The options with a value. -/
inductive Key where
  | config
  | port
  | backend
  | executable
  | profile
deriving DecidableEq, Repr

/-- What the name of an argument is for. -/
inductive Switch where
  | valued (key : Key)
  | wish (stop : Stop)
deriving DecidableEq, Repr

/-- The switches with long names. -/
def long? (name : List Char) : Option Switch :=
  if name = "config".toList then some (.valued .config)
  else if name = "port".toList then some (.valued .port)
  else if name = "backend".toList then some (.valued .backend)
  else if name = "aws-cli".toList then some (.valued .executable)
  else if name = "aws-profile".toList then some (.valued .profile)
  else if name = "help".toList then some (.wish .help)
  else if name = "version".toList then some (.wish .version)
  else none

/-- The switches with short names. -/
def short? (letter : Char) : Option Switch :=
  if letter = 'c' then some (.valued .config)
  else if letter = 'p' then some (.valued .port)
  else if letter = 'h' then some (.wish .help)
  else if letter = 'V' then some (.wish .version)
  else none

/-- The port if none is given. -/
def defaultPort : Nat := 3000

/-- What has been read: the values in effect, and the option that is pending with
    its value, if that has come. -/
structure Reading where
  config : Option String
  port : Option Nat
  backend : Option BackendKind
  executable : Option String
  profile : Option String
  pending : Option (Key × Option String)
deriving DecidableEq, Repr

def Reading.start : Reading := ⟨none,none,none,none,none,none⟩

/-- The number of decimal digits. -/
def natural? (digits : List Char) : Option Nat :=
  if !digits.isEmpty && digits.all Char.isDigit then
    some (digits.foldl (fun value digit => value*10+(digit.toNat-48)) 0)
  else none

/-- A port: decimal digits after an optional sign, in range. -/
def port? (text : String) : Option Nat :=
  let number := match text.toList with
    | '+' :: digits => natural? digits
    | '-' :: digits => (natural? digits).filter (· = 0)
    | digits => natural? digits
  number.filter (· < 65536)

/-- A path, which is not empty. -/
def path? (text : String) : Except Stop String :=
  if text.isEmpty then .error .invalidValue else .ok text

namespace Reading

/-- The option has been given. -/
def has (reading : Reading) : Key → Bool
  | .config => reading.config.isSome
  | .port => reading.port.isSome
  | .backend => reading.backend.isSome
  | .executable => reading.executable.isSome
  | .profile => reading.profile.isSome

/-- Gives an option its value; an option that comes twice is refused before its
    value is looked at. -/
def assign (reading : Reading) (key : Key) (value : String) : Except Stop Reading :=
  if reading.has key then .error .conflict
  else match key with
    | .config => (path? value).map fun path => { reading with config := some path }
    | .port =>
      match port? value with
      | some port => .ok { reading with port := some port }
      | none => .error .valueValidation
    | .backend =>
      match BackendKind.ofText? value with
      | some backend => .ok { reading with backend := some backend }
      | none => .error .invalidValue
    | .executable => (path? value).map fun path => { reading with executable := some path }
    | .profile => .ok { reading with profile := some value }

/-- Puts the pending option into effect. -/
def resolve (reading : Reading) : Except Stop Reading :=
  match reading.pending with
  | none => .ok reading
  | some (_,none) => .error .invalidValue
  | some (key,some value) => { reading with pending := none }.assign key value

/-- An option whose value is in the same argument. -/
def attach (reading : Reading) (key : Key) (value : List Char) : Except Stop Reading := do
  let reading ← reading.resolve
  reading.assign key (String.ofList value)

/-- An option whose value is to come. -/
def await (reading : Reading) (key : Key) : Except Stop Reading := do
  let reading ← reading.resolve
  .ok { reading with pending := some (key,none) }

/-- A wish, which ends the reading. -/
def wish (reading : Reading) (stop : Stop) : Except Stop Reading := do
  let _ ← reading.resolve
  .error stop

/-- An argument with a long name. -/
def long (reading : Reading) (argument : List Char) : Except Stop Reading :=
  let name := argument.takeWhile (· != '=')
  match long? name, argument.drop name.length with
  | none, _ => .error .unknownArgument
  | some (.valued key), [] => reading.await key
  | some (.valued key), _ :: value => reading.attach key value
  | some (.wish stop), [] => reading.wish stop
  | some (.wish _), _ :: _ => .error .tooManyValues

/-- An argument with short names, of which the first decides: an option takes the
    rest as its value, with or without an equals sign. -/
def short (reading : Reading) (letter : Char) (rest : List Char) : Except Stop Reading :=
  match short? letter, rest with
  | none, _ => .error .unknownArgument
  | some (.wish stop), _ => reading.wish stop
  | some (.valued key), [] => reading.await key
  | some (.valued key), '=' :: value => reading.attach key value
  | some (.valued key), value => reading.attach key value

/-- An argument that is no option: the value that is awaited, if one is. -/
def plain (reading : Reading) (argument : List Char) : Except Stop Reading :=
  match reading.pending with
  | some (key,none) => .ok { reading with pending := some (key,some (String.ofList argument)) }
  | _ => .error .unknownArgument

/-- One argument. -/
def argument (reading : Reading) (argument : List Char) : Except Stop Reading :=
  match argument with
  | '-' :: '-' :: rest => reading.long rest
  | '-' :: letter :: rest => reading.short letter rest
  | _ => reading.plain argument

/-- All arguments. Two hyphens alone end the options, and nothing may follow. -/
def arguments (reading : Reading) : List String → Except Stop Reading
  | [] => reading.resolve
  | first :: rest =>
    if first = "--" then if rest.isEmpty then reading.resolve else .error .unknownArgument
    else do
      let reading ← reading.argument first.toList
      arguments reading rest

/-- The options that were read, with the values of those that were not given. -/
def options (reading : Reading) : Except Stop Options :=
  match reading.config with
  | none => .error .missingRequired
  | some config =>
    .ok ⟨config,reading.port.getD defaultPort,reading.backend.getD .executable,reading.executable,reading.profile⟩

end Reading

/-- The options of a command line. -/
def parse (arguments : List String) : Except Stop Options := do
  let reading ← Reading.start.arguments arguments
  reading.options

end Options
end StackBroker
