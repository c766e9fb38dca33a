import StackBroker.Json.Basic

/-!
# Parameters

The parameters that callers may give to a stack: a JSON object of strings. The
first name in key order whose value is no string is reported.
-/
namespace StackBroker

/-- The kinds of JSON values. -/
inductive Json.Kind where
  | null
  | boolean
  | number
  | string
  | array
  | object
deriving DecidableEq, Repr

/-- The kind in messages, with its article. -/
def Json.Kind.text : Json.Kind → String
  | .null => "null"
  | .boolean => "a boolean"
  | .number => "a number"
  | .string => "a string"
  | .array => "an array"
  | .object => "an object"

def Json.kind : Json → Json.Kind
  | .null => .null
  | .bool _ => .boolean
  | .number _ => .number
  | .string _ => .string
  | .array _ => .array
  | .object _ => .object

/-- Why parameters are refused. -/
inductive BadParameters where
  | notObject (kind : Json.Kind)
  | notString (name : String) (kind : Json.Kind)
deriving DecidableEq, Repr

def BadParameters.message : BadParameters → String
  | .notObject kind => "expected an object, got " ++ kind.text
  | .notString name kind => "'" ++ name ++ "' must be a string, got " ++ kind.text

namespace Parameters

/-- The strings of some entries, or the first entry that is none. -/
def decodeEntries : List (String × Json) → Except BadParameters (List (String × String))
  | [] => .ok []
  | (name,.string text) :: rest => (decodeEntries rest).map ((name,text) :: ·)
  | (name,value) :: _ => .error (.notString name value.kind)

/-- The parameters of a request; none are given by no value and by null. -/
def decode : Option Json → Except BadParameters (StringMap String)
  | none | some .null => .ok .empty
  | some (.object members) => (decodeEntries (StringMap.ofList members).entries).map .ofList
  | some value => .error (.notObject value.kind)

/-- The defaults with the parameters of a caller laid over them. -/
def merge (defaults overrides : StringMap String) : StringMap String := defaults.overlay overrides

end Parameters
end StackBroker
