import StackBroker.Catalog.Format

/-!
# Settings

The configuration of a broker and of the server around it, and how it is loaded
from the content of a file. Settings that load are valid; otherwise the fault is
the first one in the order of the fields.
-/
namespace StackBroker
open StackBroker.Json (Codec Field)

/-! ### The broker -/

/-- Where stacks live, how they are named, what callers may set, and what is on
    offer. -/
structure BrokerSettings where
  region : String
  /-- What the name of every stack begins with. -/
  stackPrefix : String
  allowProvisionParameters : Bool
  allowUpdateParameters : Bool
  catalog : Catalog
deriving DecidableEq, Repr

namespace BrokerSettings

def blank : BrokerSettings := ⟨"","",false,false,.blank⟩

def codec : Codec BrokerSettings := Codec.record .blank [
  .optional "region" Codec.string (·.region) (fun v s => { s with region := v }),
  .optional "cloudformation_prefix" Codec.string (·.stackPrefix) (fun v s => { s with stackPrefix := v }),
  .optional "allow_user_provision_parameters" Codec.bool (·.allowProvisionParameters)
    (fun v s => { s with allowProvisionParameters := v }),
  .optional "allow_user_update_parameters" Codec.bool (·.allowUpdateParameters)
    (fun v s => { s with allowUpdateParameters := v }),
  .optional "catalog" Catalog.codec (·.catalog) (fun v s => { s with catalog := v })]

/-- Stacks have a region and a common start of their names, and the catalog is valid. -/
def validate (settings : BrokerSettings) : Except Invalid Unit := do
  Invalid.requireText .region .brokerConfiguration settings.region
  Invalid.requireText .stackPrefix .brokerConfiguration settings.stackPrefix
  Invalid.inPart .catalog settings.catalog.validate

end BrokerSettings

/-! ### The server -/

/-- How much the server logs, from all to only failures. -/
inductive LogLevel where
  | trace
  | debug
  | info
  | warn
  | error
deriving DecidableEq, Repr

namespace LogLevel

def text : LogLevel → String
  | .trace => "trace"
  | .debug => "debug"
  | .info => "info"
  | .warn => "warn"
  | .error => "error"

def all : List LogLevel := [trace,debug,info,warn,error]

/-- The level that a text names, without regard to the case of ASCII letters. -/
def ofText? (raw : String) : Option LogLevel :=
  let lower := raw.toList.map Char.toLower
  all.find? fun level => lower == level.text.toList

/-- Whether messages of informative kind are logged. -/
def logsInfo : LogLevel → Bool
  | .trace | .debug | .info => true
  | .warn | .error => false

/-- Whether warnings are logged. -/
def logsWarnings : LogLevel → Bool
  | .error => false
  | _ => true

end LogLevel

/-- A field of the server settings that must not be empty. -/
inductive ServerField where
  | logLevel
  | username
  | password
deriving DecidableEq, Repr

def ServerField.label : ServerField → String
  | .logLevel => "LogLevel"
  | .username => "Username"
  | .password => "Password"

/-- Why server settings are not in force. -/
inductive SettingsFault where
  /-- There is no file, or its content is no text. -/
  | unreadable
  /-- The text is no document of settings. -/
  | unparsable (fault : Json.Fault)
  | empty (field : ServerField)
  | unsupportedLogLevel (raw : String)
  | broker (inner : Invalid)
deriving DecidableEq, Repr

/-- The message of a fault; that of a file or a document that cannot be read is
    only its kind. -/
def SettingsFault.message : SettingsFault → String
  | .unreadable => "Failed to read config file"
  | .unparsable _ => "Failed to parse config file"
  | .empty field => "Must provide a non-empty " ++ field.label
  | .unsupportedLogLevel raw => "LogLevel '" ++ raw ++ "' not supported"
  | .broker inner => "Validating CloudFormation configuration: " ++ inner.message

/-- The log level, the credentials of the callers, and the broker. -/
structure ServerSettings where
  logLevel : String
  username : String
  password : String
  broker : BrokerSettings
deriving DecidableEq, Repr

namespace ServerSettings

def blank : ServerSettings := ⟨"","","",.blank⟩

def codec : Codec ServerSettings := Codec.record .blank [
  .optional "log_level" Codec.string (·.logLevel) (fun v s => { s with logLevel := v }),
  .optional "username" Codec.string (·.username) (fun v s => { s with username := v }),
  .optional "password" Codec.string (·.password) (fun v s => { s with password := v }),
  .optional "cloudformation" BrokerSettings.codec (·.broker) (fun v s => { s with broker := v })]

/-- The log level that is set, if it is one. -/
def level? (settings : ServerSettings) : Option LogLevel := LogLevel.ofText? settings.logLevel

/-- Refuses an empty field. -/
def requireText (field : ServerField) (text : String) : Except SettingsFault Unit :=
  if text.isEmpty then .error (.empty field) else .ok ()

/-- Refuses a text that names no log level. -/
def requireLevel (raw : String) : Except SettingsFault Unit :=
  if (LogLevel.ofText? raw).isNone then .error (.unsupportedLogLevel raw) else .ok ()

/-- The log level is one, the credentials are not empty, and the broker is valid. -/
def validate (settings : ServerSettings) : Except SettingsFault Unit := do
  requireText .logLevel settings.logLevel
  requireLevel settings.logLevel
  requireText .username settings.username
  requireText .password settings.password
  settings.broker.validate.mapError .broker

/-- The settings of a file with some bytes, if there is such a file. -/
def load (file : Option (List UInt8)) : Except SettingsFault ServerSettings :=
  match file.bind Utf8.decodeStrict with
  | none => .error .unreadable
  | some text =>
    match codec.readText text with
    | .error fault => .error (.unparsable fault)
    | .ok settings => do
      settings.validate
      .ok settings

end ServerSettings
end StackBroker
