import StackBroker.Json.Basic

/-!
# Nodes of a document

What a scan of a JSON text finds, before anyone says which parts are kept. A
node may be unfit to be kept and yet be fit to be skipped: a number that is too
large, a string whose escapes or bytes are no characters, a container nested too
deep. A node may also be broken off, where the text stops being JSON; whatever
stands before the break can still be read. Every JSON value is a node without
such defects.
-/
namespace StackBroker.Json

/-- A part of a document. -/
inductive Node where
  | null
  | bool (value : Bool)
  /-- A number, or a literal whose value is too large for one. -/
  | number (value : Option Number)
  /-- A string, or one whose content is no text. -/
  | string (text : Option String)
  /-- The items that were found, and whether the array was closed after them. -/
  | array (items : List Node) (closed : Bool)
  /-- The members that were found, and whether the object was closed after them. -/
  | object (members : List (Option String × Node)) (closed : Bool)
  /-- A container nested too deep to be kept, and whether it was closed. -/
  | buried (closed : Bool)
  /-- The text is no JSON here. -/
  | broken
deriving Repr, Inhabited

namespace Node

mutual
/-- The text of the node is JSON, whether or not it is fit to be kept. -/
def intact : Node → Bool
  | .null | .bool _ | .number _ | .string _ => true
  | .array items closed => closed && allIntact items
  | .object members closed => closed && membersIntact members
  | .buried closed => closed
  | .broken => false

/-- All of some nodes are intact. -/
def allIntact : List Node → Bool
  | [] => true
  | node :: rest => node.intact && allIntact rest

/-- The values of all of some members are intact. -/
def membersIntact : List (Option String × Node) → Bool
  | [] => true
  | (_,node) :: rest => node.intact && membersIntact rest
end

mutual
/-- The node of a value. -/
def ofJson : Json → Node
  | .null => .null
  | .bool value => .bool value
  | .number value => .number (some value)
  | .string value => .string (some value)
  | .array items => .array (ofItems items) true
  | .object members => .object (ofMembers members) true

/-- The nodes of some values. -/
def ofItems : List Json → List Node
  | [] => []
  | item :: rest => ofJson item :: ofItems rest

/-- The member nodes of some members. -/
def ofMembers : List (String × Json) → List (Option String × Node)
  | [] => []
  | (name,value) :: rest => (some name,ofJson value) :: ofMembers rest
end

mutual
/-- The value of a node that is fit to be kept. The members of an object are put
    in key order; of two members with one name the later stays. -/
def toJson? : Node → Option Json
  | .null => some .null
  | .bool value => some (.bool value)
  | .number value => value.map .number
  | .string text => text.map .string
  | .array items true => (toItems? items).map .array
  | .object members true => (toMembers? members).map fun found => ofMap (StringMap.ofList found)
  | .array _ false | .object _ false | .buried _ | .broken => none

/-- The values of nodes that are all fit to be kept. -/
def toItems? : List Node → Option (List Json)
  | [] => some []
  | node :: rest => do
    let first ← node.toJson?
    let others ← toItems? rest
    some (first :: others)

/-- The members of nodes that are all fit to be kept. -/
def toMembers? : List (Option String × Node) → Option (List (String × Json))
  | [] => some []
  | (none,_) :: _ => none
  | (some name,node) :: rest => do
    let first ← node.toJson?
    let others ← toMembers? rest
    some ((name,first) :: others)
end

end Node

/-- A scanned text: its first value, and whether only blanks follow it. -/
structure Document where
  root : Node
  clean : Bool
deriving Repr, Inhabited

end StackBroker.Json
