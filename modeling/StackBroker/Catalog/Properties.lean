import StackBroker.StringMap
import StackBroker.Catalog.Invalid

/-!
# Stack properties of a plan

What the configuration says about the stacks of a plan, and the policy for a
stack whose creation fails.
-/
namespace StackBroker

/-- What becomes of a stack whose creation fails. -/
inductive FailurePolicy where
  | delete
  | doNothing
  | rollback
deriving DecidableEq, Repr

namespace FailurePolicy

/-- The token of a policy. -/
def token : FailurePolicy → String
  | .delete => "DELETE"
  | .doNothing => "DO_NOTHING"
  | .rollback => "ROLLBACK"

/-- The policy whose token a text is, without regard to the case of ASCII letters. -/
def ofToken? (raw : String) : Option FailurePolicy :=
  let upper := raw.toList.map Char.toUpper
  [delete,doNothing,rollback].find? fun policy => upper == policy.token.toList

end FailurePolicy

/-- The settings of the stacks of a plan. -/
structure StackProperties where
  capabilities : List String
  disableRollback : Bool
  notificationArns : List String
  /-- The token of the failure policy as it was configured. -/
  onFailure : Option String
  /-- The default parameters of the stacks. -/
  parameters : StringMap String
  resourceTypes : List String
  stackPolicyUrl : Option String
  templateUrl : String
  timeoutInMinutes : Option UInt32
deriving DecidableEq, Repr

namespace StackProperties

/-- Nothing is set. -/
def blank : StackProperties := ⟨[],false,[],none,.empty,[],none,"",none⟩

/-- The configured failure policy, if any; an empty token counts as none. -/
def failurePolicy (properties : StackProperties) : Except Invalid (Option FailurePolicy) :=
  match properties.onFailure with
  | none => .ok none
  | some raw =>
    if raw.isEmpty then .ok none
    else match FailurePolicy.ofToken? raw with
      | some policy => .ok (some policy)
      | none => .error (.unsupportedPolicy raw)

/-- The failure policy is known and the template has a location. -/
def validate (properties : StackProperties) : Except Invalid Unit := do
  let _ ← properties.failurePolicy
  Invalid.requireText .templateUrl .stackProperties properties.templateUrl

end StackProperties
end StackBroker
