import StackBroker.StringMap
import StackBroker.Binary64.Basic

/-!
# JSON values

The values of JSON. Integers and floating-point numbers are told apart, as the
literal of a number tells them apart.
-/
namespace StackBroker

/-- A number: an integer of at most sixty-four bits, or a floating-point number. -/
inductive Number where
  | integer (value : Int)
  | float (value : Binary64)
deriving DecidableEq, Repr

/-- The floating-point number nearest to a number. -/
def Number.toBinary64 : Number → Binary64
  | .integer value => .ofInt value
  | .float value => value

/-- A value of JSON. The members of an object that was read come in key order. -/
inductive Json where
  | null
  | bool (value : Bool)
  | number (value : Number)
  | string (value : String)
  | array (items : List Json)
  | object (members : List (String × Json))
deriving Repr, Inhabited

namespace Json

/-- The object of a map. -/
def ofMap (map : StringMap Json) : Json := .object map.entries

/-- The integer as a value. -/
def ofInt (value : Int) : Json := .number (.integer value)

/-- The object of a map of strings. -/
def ofStrings (map : StringMap String) : Json := ofMap (map.mapValues .string)

end Json
end StackBroker
