import StackBroker.Stack.Arguments
import StackBroker.Stack.Failure
import StackBroker.Json.Diagnosis

/-!
# Listings

The document by which the command line of the remote service describes stacks.
A listing is read as a whole: one entry that cannot be read spoils it.
-/
namespace StackBroker.Stack
open StackBroker.Json (Codec Field Shape)

/-- An output in a listing. -/
structure OutputEntry where
  key : String
  value : String
deriving DecidableEq, Repr

namespace OutputEntry

def blank : OutputEntry := ⟨"",""⟩

def codec : Codec OutputEntry := Codec.record .blank [
  .optional "OutputKey" Codec.string (·.key) (fun v e => { e with key := v }),
  .optional "OutputValue" Codec.string (·.value) (fun v e => { e with value := v })]

end OutputEntry

/-- A stack in a listing. -/
structure ListedStack where
  id : String
  name : String
  description : String
  parameters : List ParameterEntry
  outputs : List OutputEntry
  capabilities : List String
  disableRollback : Bool
  notificationArns : List String
  /-- The state in the words of the remote service. -/
  rawStatus : String
  timeoutInMinutes : Option UInt32
  tags : List TagEntry
deriving DecidableEq, Repr

namespace ListedStack

def blank : ListedStack := ⟨"","","",[],[],[],false,[],"",none,[]⟩

def codec : Codec ListedStack := Codec.record .blank [
  .optional "StackId" Codec.string (·.id) (fun v s => { s with id := v }),
  .optional "StackName" Codec.string (·.name) (fun v s => { s with name := v }),
  .optional "Description" Codec.string (·.description) (fun v s => { s with description := v }),
  .optional "Parameters" (Codec.list ParameterEntry.codec) (·.parameters)
    (fun v s => { s with parameters := v }),
  .optional "Outputs" (Codec.list OutputEntry.codec) (·.outputs) (fun v s => { s with outputs := v }),
  .optional "Capabilities" Codec.strings (·.capabilities) (fun v s => { s with capabilities := v }),
  .optional "DisableRollback" Codec.bool (·.disableRollback) (fun v s => { s with disableRollback := v }),
  .optional "NotificationARNs" Codec.strings (·.notificationArns)
    (fun v s => { s with notificationArns := v }),
  .optional "StackStatus" Codec.string (·.rawStatus) (fun v s => { s with rawStatus := v }),
  .optional "TimeoutInMinutes" (Codec.option Codec.uint32) (·.timeoutInMinutes)
    (fun v s => { s with timeoutInMinutes := v }),
  .optional "Tags" (Codec.list TagEntry.codec) (·.tags) (fun v s => { s with tags := v })]

/-- The details of a listed stack; of two entries with one key the later counts. -/
def details (stack : ListedStack) : Details :=
  { Details.blank with
    name := stack.name
    capabilities := stack.capabilities
    disableRollback := stack.disableRollback
    description := stack.description
    notificationArns := stack.notificationArns
    outputs := .ofList (stack.outputs.map fun entry => (entry.key,entry.value))
    parameters := .ofList (stack.parameters.map fun entry => (entry.key,entry.value))
    id := stack.id
    status := .ofRaw stack.rawStatus
    tags := .ofList (stack.tags.map fun entry => (entry.key,entry.value))
    timeoutInMinutes := stack.timeoutInMinutes }

end ListedStack

/-- Some described stacks. -/
structure Listing where
  listed : List ListedStack
deriving DecidableEq, Repr

namespace Listing

def blank : Listing := ⟨[]⟩

def codec : Codec Listing := Codec.record .blank [
  .optional "Stacks" (Codec.list ListedStack.codec) (·.listed) (fun v l => { l with listed := v })]

/-- A document of a key and a value. -/
private def pairShape (name key value : String) : Shape := .record name [(key,.string),(value,.string)]

/-- The shape of a listing, with the names under which diagnoses know its parts. -/
def shape : Shape := .record "DescribeStacksOutput" [("Stacks",.list (.record "CliStack" [
  ("StackId",.string),("StackName",.string),("Description",.string),
  ("Parameters",.list (pairShape "CliParameter" "ParameterKey" "ParameterValue")),
  ("Outputs",.list (pairShape "CliOutput" "OutputKey" "OutputValue")),
  ("Capabilities",.list .string),("DisableRollback",.bool),("NotificationARNs",.list .string),
  ("StackStatus",.string),("TimeoutInMinutes",.option .uint32),
  ("Tags",.list (pairShape "CliTag" "Key" "Value"))]))]

/-- What is told of a text that is no listing. -/
def complaint (text : String) : String :=
  "describe-stacks output: " ++ (Json.diagnose? shape text).getD "unreadable"

/-- The first stack of exactly a name. -/
def find? (listing : Listing) (name : String) : Option ListedStack :=
  listing.listed.find? fun stack => stack.name == name

/-- The details of a stack in the text of a listing. -/
def describe (text : String) (name : String) : Except Failure Details :=
  match codec.readText text with
  | .error _ => .error (.unreadable (complaint text))
  | .ok listing =>
    match listing.find? name with
    | some stack => .ok stack.details
    | none => .error .doesNotExist

end Listing
end StackBroker.Stack
