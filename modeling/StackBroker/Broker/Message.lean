import StackBroker.Catalog.Format
import StackBroker.Stack.Details

/-!
# Messages

What callers ask of a broker and what they are answered, with the JSON documents
of both.
-/
namespace StackBroker.Broker
open StackBroker.Json (Codec Field)

/-! ### Questions -/

/-- What is asked for with a new instance. -/
structure ProvisionDetails where
  serviceId : String
  planId : String
  organizationGuid : String
  spaceGuid : String
  parameters : Option Json
deriving Repr

namespace ProvisionDetails

def blank : ProvisionDetails := ⟨"","","","",none⟩

def codec : Codec ProvisionDetails := Codec.record .blank [
  .optional "service_id" Codec.string (·.serviceId) (fun v d => { d with serviceId := v }),
  .optional "plan_id" Codec.string (·.planId) (fun v d => { d with planId := v }),
  .optional "organization_guid" Codec.string (·.organizationGuid)
    (fun v d => { d with organizationGuid := v }),
  .optional "space_guid" Codec.string (·.spaceGuid) (fun v d => { d with spaceGuid := v }),
  .sparse "parameters" (Codec.option Codec.json) (·.parameters)
    (fun v d => { d with parameters := v }) Option.isNone]

end ProvisionDetails

/-- What an instance was before an update, as the caller knows it. -/
structure PreviousValues where
  serviceId : String
  planId : String
  organizationId : String
  spaceId : String
deriving DecidableEq, Repr

namespace PreviousValues

def blank : PreviousValues := ⟨"","","",""⟩

def codec : Codec PreviousValues := Codec.record .blank [
  .optional "service_id" Codec.string (·.serviceId) (fun v d => { d with serviceId := v }),
  .optional "plan_id" Codec.string (·.planId) (fun v d => { d with planId := v }),
  .optional "organization_id" Codec.string (·.organizationId) (fun v d => { d with organizationId := v }),
  .optional "space_id" Codec.string (·.spaceId) (fun v d => { d with spaceId := v })]

end PreviousValues

/-- What is asked for with an update of an instance. -/
structure UpdateDetails where
  serviceId : String
  planId : String
  parameters : Option Json
  previousValues : Option PreviousValues
deriving Repr

namespace UpdateDetails

def blank : UpdateDetails := ⟨"","",none,none⟩

def codec : Codec UpdateDetails := Codec.record .blank [
  .optional "service_id" Codec.string (·.serviceId) (fun v d => { d with serviceId := v }),
  .optional "plan_id" Codec.string (·.planId) (fun v d => { d with planId := v }),
  .sparse "parameters" (Codec.option Codec.json) (·.parameters)
    (fun v d => { d with parameters := v }) Option.isNone,
  .sparse "previous_values" (Codec.option PreviousValues.codec) (·.previousValues)
    (fun v d => { d with previousValues := v }) Option.isNone]

end UpdateDetails

/-- What is said with the removal of an instance. -/
structure DeprovisionDetails where
  serviceId : String
  planId : String
deriving DecidableEq, Repr

namespace DeprovisionDetails

def blank : DeprovisionDetails := ⟨"",""⟩

def codec : Codec DeprovisionDetails := Codec.record .blank [
  .optional "service_id" Codec.string (·.serviceId) (fun v d => { d with serviceId := v }),
  .optional "plan_id" Codec.string (·.planId) (fun v d => { d with planId := v })]

end DeprovisionDetails

/-- What is asked for with a binding to an instance. -/
structure BindDetails where
  serviceId : String
  planId : String
  appGuid : String
  parameters : Option Json
deriving Repr

namespace BindDetails

def blank : BindDetails := ⟨"","","",none⟩

def codec : Codec BindDetails := Codec.record .blank [
  .optional "service_id" Codec.string (·.serviceId) (fun v d => { d with serviceId := v }),
  .optional "plan_id" Codec.string (·.planId) (fun v d => { d with planId := v }),
  .optional "app_guid" Codec.string (·.appGuid) (fun v d => { d with appGuid := v }),
  .sparse "parameters" (Codec.option Codec.json) (·.parameters)
    (fun v d => { d with parameters := v }) Option.isNone]

end BindDetails

/-- What is said with the removal of a binding. -/
structure UnbindDetails where
  serviceId : String
  planId : String
deriving DecidableEq, Repr

namespace UnbindDetails

def blank : UnbindDetails := ⟨"",""⟩

def codec : Codec UnbindDetails := Codec.record .blank [
  .optional "service_id" Codec.string (·.serviceId) (fun v d => { d with serviceId := v }),
  .optional "plan_id" Codec.string (·.planId) (fun v d => { d with planId := v })]

end UnbindDetails

/-! ### Answers -/

/-- The answer to a provision. Whether the work goes on after the answer is no
    part of the document. -/
structure ProvisioningResponse where
  dashboardUrl : Option String
  isAsync : Bool
deriving DecidableEq, Repr

namespace ProvisioningResponse

def blank : ProvisioningResponse := ⟨none,false⟩

def codec : Codec ProvisioningResponse := Codec.record .blank [
  .sparse "dashboard_url" (Codec.option Codec.string) (·.dashboardUrl)
    (fun v r => { r with dashboardUrl := v }) Option.isNone]

end ProvisioningResponse

/-- The answer to an update or a deprovision, whose document is empty. -/
structure OperationResponse where
  isAsync : Bool
deriving DecidableEq, Repr

namespace OperationResponse

def blank : OperationResponse := ⟨false⟩

def codec : Codec OperationResponse := Codec.record .blank []

end OperationResponse

/-- The answer to a bind. -/
structure BindingResponse where
  credentials : StringMap String
deriving DecidableEq, Repr

namespace BindingResponse

def blank : BindingResponse := ⟨.empty⟩

def codec : Codec BindingResponse := Codec.record .blank [
  .needed "credentials" (Codec.map Codec.string) (·.credentials) (fun v r => { r with credentials := v })]

end BindingResponse

/-- How far the last operation on an instance has come. -/
inductive OperationState where
  | inProgress
  | succeeded
  | failed
deriving DecidableEq, Repr

namespace OperationState

def text : OperationState → String
  | .inProgress => "in progress"
  | .succeeded => "succeeded"
  | .failed => "failed"

def all : List OperationState := [inProgress,succeeded,failed]

def ofText? (text : String) : Option OperationState := all.find? fun state => state.text == text

/-- The state of the operation on a stack of some status. -/
def ofStatus : Stack.Status → OperationState
  | .succeeded => .succeeded
  | .inProgress => .inProgress
  | .failed => .failed

/-- A state by its text, or as an object with nothing but that name and null. -/
def codec : Codec OperationState where
  read
    | .string (some text) =>
      match ofText? text with
      | some state => .ok state
      | none => .error .mismatch
    | .object ((some text,node) :: rest) closed =>
      match ofText? text with
      | none => .error .mismatch
      | some state =>
        match node with
        | .null => if closed && rest.isEmpty then .ok state else .error .malformed
        | other => .error other.refusal
    | .object ((none,_) :: _) _ | .object [] _ | .buried _ => .error .malformed
    | node => .error node.refusal
  write state := .string state.text

end OperationState

/-- The answer about the last operation. -/
structure LastOperationResponse where
  state : OperationState
  description : String
deriving DecidableEq, Repr

namespace LastOperationResponse

def blank : LastOperationResponse := ⟨.failed,""⟩

def codec : Codec LastOperationResponse := Codec.record .blank [
  .needed "state" OperationState.codec (·.state) (fun v r => { r with state := v }),
  .sparse "description" Codec.string (·.description)
    (fun v r => { r with description := v }) String.isEmpty]

end LastOperationResponse
end StackBroker.Broker
