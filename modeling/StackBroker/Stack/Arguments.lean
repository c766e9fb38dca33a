import StackBroker.Stack.Details
import StackBroker.Json.Record

/-!
# Arguments

The arguments with which the command line of the remote service creates and
updates a stack. What is not set is left out. Rollback, failure policy, tags and
timeout are settings of a creation and no part of an update.
-/
namespace StackBroker.Stack
open StackBroker.Json (Codec Field)

/-- A parameter in a document of parameters. -/
structure ParameterEntry where
  key : String
  value : String
deriving DecidableEq, Repr

namespace ParameterEntry

def blank : ParameterEntry := ⟨"",""⟩

def codec : Codec ParameterEntry := Codec.record .blank [
  .optional "ParameterKey" Codec.string (·.key) (fun v e => { e with key := v }),
  .optional "ParameterValue" Codec.string (·.value) (fun v e => { e with value := v })]

end ParameterEntry

/-- A tag in a document of tags. -/
structure TagEntry where
  key : String
  value : String
deriving DecidableEq, Repr

namespace TagEntry

def blank : TagEntry := ⟨"",""⟩

def codec : Codec TagEntry := Codec.record .blank [
  .optional "Key" Codec.string (·.key) (fun v e => { e with key := v }),
  .optional "Value" Codec.string (·.value) (fun v e => { e with value := v })]

end TagEntry

namespace Arguments

/-- The document of some parameters, in key order. -/
def parametersText (parameters : StringMap String) : String :=
  (Codec.list ParameterEntry.codec).writeText (parameters.entries.map fun (key,value) => ⟨key,value⟩)

/-- The document of some tags, in key order. -/
def tagsText (tags : StringMap String) : String :=
  (Codec.list TagEntry.codec).writeText (tags.entries.map fun (key,value) => ⟨key,value⟩)

/-- The flags that creations and updates are written with. -/
def flags : List String :=
  ["--stack-name","--template-url","--capabilities","--disable-rollback","--notification-arns","--on-failure",
    "--parameters","--resource-types","--stack-policy-url","--tags","--timeout-in-minutes"]

/-- The stack and its template. -/
def subject (name : String) (details : Details) : List String :=
  ["--stack-name",name,"--template-url",details.templateUrl]

/-- A flag before a list that is not empty. -/
def listed (flag : String) (values : List String) : List String :=
  if values.isEmpty then [] else flag :: values

def capabilities (details : Details) : List String := listed "--capabilities" details.capabilities

def rollback (details : Details) : List String := if details.disableRollback then ["--disable-rollback"] else []

def notifications (details : Details) : List String := listed "--notification-arns" details.notificationArns

def failurePolicy (details : Details) : List String :=
  match details.onFailure with
  | none => []
  | some policy => ["--on-failure",policy.token]

def parameters (details : Details) : List String :=
  if details.parameters.isEmpty then [] else ["--parameters",parametersText details.parameters]

def resourceTypes (details : Details) : List String := listed "--resource-types" details.resourceTypes

def policyUrl (details : Details) : List String :=
  match details.stackPolicyUrl with
  | none => []
  | some url => if url.isEmpty then [] else ["--stack-policy-url",url]

def tags (details : Details) : List String :=
  if details.tags.isEmpty then [] else ["--tags",tagsText details.tags]

def timeout (details : Details) : List String :=
  match details.timeoutInMinutes with
  | none => []
  | some minutes => if minutes = 0 then [] else ["--timeout-in-minutes",toString minutes.toNat]

/-- The arguments of a creation. -/
def create (name : String) (details : Details) : List String :=
  subject name details ++ capabilities details ++ rollback details ++ notifications details ++
    failurePolicy details ++ parameters details ++ resourceTypes details ++ policyUrl details ++
    tags details ++ timeout details

/-- The arguments of an update. -/
def update (name : String) (details : Details) : List String :=
  subject name details ++ capabilities details ++ notifications details ++ parameters details ++
    resourceTypes details ++ policyUrl details

/-- The arguments that only name a stack. -/
def named (name : String) : List String := ["--stack-name",name]

end Arguments
end StackBroker.Stack
