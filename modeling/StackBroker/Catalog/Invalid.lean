/-!
# Invalid configurations

Why a catalog or a broker configuration is refused: an empty field, with what it
belongs to, or an unknown failure policy; and the sections of the configuration
in which the fault lies, from the outermost in.
-/
namespace StackBroker

/-- A field that must not be empty. -/
inductive RequiredField where
  | region
  | stackPrefix
  | id
  | name
  | description
  | templateUrl
deriving DecidableEq, Repr

/-- The name of a required field in messages. -/
def RequiredField.label : RequiredField → String
  | .region => "Region"
  | .stackPrefix => "CloudFormationPrefix"
  | .id => "ID"
  | .name => "Name"
  | .description => "Description"
  | .templateUrl => "TemplateURL"

/-- What a field belongs to. A service or a plan is called by its id, or by its
    name if the id is what is missing. -/
inductive Owner where
  | brokerConfiguration
  | service (called : String)
  | plan (called : String)
  | stackProperties
deriving DecidableEq, Repr

/-- The owner in messages. -/
def Owner.text : Owner → String
  | .brokerConfiguration => "broker configuration"
  | .service called => "service '" ++ called ++ "'"
  | .plan called => "plan '" ++ called ++ "'"
  | .stackProperties => "cloudformation properties"

/-- A part of the configuration that holds others. -/
inductive ConfigurationPart where
  | catalog
  | services
  | plans
  | stackProperties
deriving DecidableEq, Repr

/-- The name of a part in messages. -/
def ConfigurationPart.label : ConfigurationPart → String
  | .catalog => "Catalog"
  | .services => "Services"
  | .plans => "Plans"
  | .stackProperties => "CloudFormation Properties"

/-- Why a configuration is refused. -/
inductive Invalid where
  | empty (field : RequiredField) (owner : Owner)
  | unsupportedPolicy (raw : String)
  | within (part : ConfigurationPart) (inner : Invalid)
deriving DecidableEq, Repr

/-- The message of a fault, with the parts it lies in. -/
def Invalid.message : Invalid → String
  | .empty field owner => "Must provide a non-empty " ++ field.label ++ " (" ++ owner.text ++ ")"
  | .unsupportedPolicy raw => "OnFailure '" ++ raw ++ "' not supported"
  | .within part inner => "Validating " ++ part.label ++ " configuration: " ++ inner.message

namespace Invalid

/-- Refuses an empty text. -/
def requireText (field : RequiredField) (owner : Owner) (text : String) : Except Invalid Unit :=
  if text.isEmpty then .error (.empty field owner) else .ok ()

/-- Puts the fault of a check into a part. -/
def inPart (part : ConfigurationPart) (check : Except Invalid Unit) : Except Invalid Unit :=
  check.mapError (.within part)

end Invalid
end StackBroker
