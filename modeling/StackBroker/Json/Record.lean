import StackBroker.Json.Codec

/-!
# Records

Structures as JSON objects. A record is read by updating a blank value field by
field in the order of the document; a name that no field has is skipped with
whatever it holds, a field that comes twice is refused. A record may also be
written as an array of its fields in their order.
-/
namespace StackBroker.Json

/-- A named part of a record: how a node updates the record, and what the record
    is written with under the name, if anything. -/
structure Field (α : Type) where
  name : String
  /-- Whether a record without the field is refused. -/
  required : Bool
  read : Node → α → Except Fault α
  write : α → Option Json

namespace Field
variable {α β : Type}

/-- A field that is left out of what is written where a test holds. -/
def make (name : String) (required : Bool) (codec : Codec β) (get : α → β) (set : β → α → α)
    (leftOut : β → Bool) : Field α where
  name := name
  required := required
  read node record := (codec.read node).map (set · record)
  write record := if leftOut (get record) then none else some (codec.write (get record))

/-- A field that has to be there. -/
def needed (name : String) (codec : Codec β) (get : α → β) (set : β → α → α) : Field α :=
  make name true codec get set (fun _ => false)

/-- A field that may be missing and is always written. -/
def optional (name : String) (codec : Codec β) (get : α → β) (set : β → α → α) : Field α :=
  make name false codec get set (fun _ => false)

/-- A field that may be missing and is left out where a test holds. -/
def sparse (name : String) (codec : Codec β) (get : α → β) (set : β → α → α) (leftOut : β → Bool) : Field α :=
  make name false codec get set leftOut

end Field

namespace Record
variable {α : Type}

/-- Updates a record by members one after the other; also gives the names of the
    fields that came. -/
def readMembers (fields : List (Field α)) (seen : List String) (record : α) :
    List (Option String × Node) → Except Fault (List String × α)
  | [] => .ok (seen,record)
  | (none,_) :: _ => .error .malformed
  | (some name,node) :: rest =>
    match fields.find? (·.name == name) with
    | none => if node.intact then readMembers fields seen record rest else .error .malformed
    | some field =>
      if seen.contains name then .error .mismatch
      else match field.read node record with
        | .error fault => .error fault
        | .ok record => readMembers fields (name :: seen) record rest

/-- Updates a record by items that stand for its fields in their order. -/
def readItems (closed : Bool) : List (Field α) → List Node → α → Except Fault α
  | [], [], record => if closed then .ok record else .error .malformed
  | [], _ :: _, _ => .error .malformed
  | field :: fields, [], record =>
    if !closed then .error .malformed
    else if field.required then .error .mismatch
    else readItems closed fields [] record
  | field :: fields, node :: rest, record =>
    match field.read node record with
    | .error fault => .error fault
    | .ok record => readItems closed fields rest record

/-- Every field that has to be there is among some names. -/
def present (fields : List (Field α)) (seen : List String) : Bool :=
  fields.all fun field => !field.required || seen.contains field.name

/-- Reads a record from an object or an array. -/
def read (blank : α) (fields : List (Field α)) : Node → Except Fault α
  | .object members closed =>
    match readMembers fields [] blank members with
    | .error fault => .error fault
    | .ok (seen,record) =>
      if !closed then .error .malformed
      else if present fields seen then .ok record
      else .error .mismatch
  | .array items closed => readItems closed fields items blank
  | node => .error node.refusal

/-- The members that a record is written with, in the order of its fields. -/
def members (fields : List (Field α)) (record : α) : List (String × Json) :=
  fields.filterMap fun field => (field.write record).map fun value => (field.name,value)

end Record

/-- The records over a blank one with some fields. -/
def Codec.record {α : Type} (blank : α) (fields : List (Field α)) : Codec α where
  read := Record.read blank fields
  write record := .object (Record.members fields record)

end StackBroker.Json
