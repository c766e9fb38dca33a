import StackBroker.Json.Scanner
import StackBroker.Json.Printer

/-!
# Codecs

How the values of a type are read from nodes and written as JSON. Reading meets
faults in the order of the document: the first part that is no JSON, or that is
JSON of the wrong shape, decides.
-/
namespace StackBroker.Json

/-- Why a document is refused. -/
inductive Fault where
  /-- The text is no JSON, or holds a part that nothing can keep. -/
  | malformed
  /-- The text is JSON of another shape. -/
  | mismatch
deriving DecidableEq, Repr

/-- A way to read and to write the values of a type. -/
structure Codec (α : Type) where
  read : Node → Except Fault α
  write : α → Json

/-- Why a node of the wrong kind is refused. A container is refused at its
    opening bracket, anything else only once it has been read. -/
def Node.refusal : Node → Fault
  | .number none | .string none | .broken => .malformed
  | _ => .mismatch

namespace Codec
variable {α : Type}

/-- The value of a whole document, after which nothing but blanks may stand. -/
def readDocument (codec : Codec α) (document : Document) : Except Fault α :=
  match codec.read document.root with
  | .error fault => .error fault
  | .ok value => if document.clean then .ok value else .error .malformed

/-- The value of a text. -/
def readText (codec : Codec α) (text : String) : Except Fault α := codec.readDocument (scanText text)

/-- The value of a JSON value. -/
def readJson (codec : Codec α) (value : Json) : Except Fault α := codec.read (.ofJson value)

/-- The compact text of what a value is written as. -/
def writeText (codec : Codec α) (value : α) : String := (codec.write value).text

/-! ### Scalars -/

def string : Codec String where
  read
    | .string (some text) => .ok text
    | node => .error node.refusal
  write := .string

def bool : Codec Bool where
  read
    | .bool value => .ok value
    | node => .error node.refusal
  write := .bool

/-- Integers of thirty-two bits, which no other literal stands for. -/
def uint32 : Codec UInt32 where
  read
    | .number (some (.integer value)) =>
      if 0 ≤ value ∧ value < UInt32.size then .ok (UInt32.ofNat value.toNat) else .error .mismatch
    | node => .error node.refusal
  write value := Json.ofInt value.toNat

/-- Finite floating-point numbers, for which integers may stand. What is not
    finite is written as null and is never read. -/
def binary64 : Codec Binary64 where
  read
    | .number (some literal) =>
      if literal.toBinary64.isFinite then .ok literal.toBinary64 else .error .mismatch
    | node => .error node.refusal
  write value := if value.isFinite then .number (.float value) else .null

/-- Any value that is fit to be kept. -/
def json : Codec Json where
  read node :=
    match node.toJson? with
    | some value => .ok value
    | none => .error .malformed
  write := id

/-! ### Optional values and collections -/

/-- A value or null. -/
def option (codec : Codec α) : Codec (Option α) where
  read
    | .null => .ok none
    | node => (codec.read node).map some
  write
    | none => .null
    | some value => codec.write value

/-- Reads nodes one after the other. -/
def readItems (read : Node → Except Fault α) : List Node → Except Fault (List α)
  | [] => .ok []
  | node :: rest => do
    let first ← read node
    let others ← readItems read rest
    .ok (first :: others)

/-- An array of values. -/
def list (codec : Codec α) : Codec (List α) where
  read
    | .array items closed =>
      match readItems codec.read items with
      | .error fault => .error fault
      | .ok values => if closed then .ok values else .error .malformed
    | node => .error node.refusal
  write values := .array (values.map codec.write)

/-- An array of strings. -/
def strings : Codec (List String) := list string

/-- Reads members one after the other. -/
def readMembers (read : Node → Except Fault α) :
    List (Option String × Node) → Except Fault (List (String × α))
  | [] => .ok []
  | (none,_) :: _ => .error .malformed
  | (some name,node) :: rest => do
    let first ← read node
    let others ← readMembers read rest
    .ok ((name,first) :: others)

/-- An object as a map; of two members with one name the later stays. -/
def map (codec : Codec α) : Codec (StringMap α) where
  read
    | .object members closed =>
      match readMembers codec.read members with
      | .error fault => .error fault
      | .ok entries => if closed then .ok (.ofList entries) else .error .malformed
    | node => .error node.refusal
  write values := Json.ofMap (values.mapValues codec.write)

end Codec
end StackBroker.Json
