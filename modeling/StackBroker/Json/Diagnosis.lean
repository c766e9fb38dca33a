import StackBroker.Text.Classes
import StackBroker.Json.Scanner
import StackBroker.Json.Printer

/-!
# Diagnosis

What is wrong with a text that cannot be read as a document of some shape, and
where: the words and the place that a person is told. A diagnosis reads the text
once more from the start and stops at the first fault. Columns count bytes.
-/
namespace StackBroker.Json

/-- The shape of a document: what is expected at each place. All fields of a
    record may be missing. -/
inductive Shape where
  | string
  | bool
  | uint32
  | option (inner : Shape)
  | list (inner : Shape)
  | record (name : String) (fields : List (String × Shape))
deriving Repr, Inhabited

/-- What is expected, in the words of a diagnosis. -/
def Shape.text : Shape → String
  | .string => "a string"
  | .bool => "a boolean"
  | .uint32 => "u32"
  | .option inner => inner.text
  | .list _ => "a sequence"
  | .record name _ => "struct " ++ name

namespace Diagnosis

/-- A fault, and the number of bytes up to the place that is told. -/
structure Problem where
  words : String
  offset : Nat
deriving DecidableEq, Repr

/-- The rest of a text, and the number of bytes before it. -/
structure Cursor where
  rest : List Char
  offset : Nat
deriving DecidableEq, Repr

/-- A reading moves along the text until a fault. -/
abbrev Reading := StateT Cursor (Except Problem)

def peek : Reading (Option Char) := do return (← get).rest.head?

/-- Moves past a character. -/
def eat : Reading Unit :=
  modify fun cursor => match cursor.rest with
    | [] => cursor
    | c :: rest => ⟨rest,cursor.offset+c.utf8Size⟩

/-- Moves past blanks, and tells what comes then. -/
def blanks : Reading (Option Char) := do
  modify fun cursor =>
    let count := (cursor.rest.takeWhile Scanner.isSpace).length
    ⟨cursor.rest.drop count,cursor.offset+count⟩
  peek

/-- A fault up to the place itself. -/
def failHere {α : Type} (words : String) : Reading α := do
  throw ⟨words,(← get).offset⟩

/-- A fault of the character that comes next, or of the end of the text. -/
def fail {α : Type} (words : String) : Reading α := do
  let cursor ← get
  throw ⟨words,if cursor.rest.isEmpty then cursor.offset else cursor.offset+1⟩

/-- A fault with words of its own at the end of the text. -/
def failOrEnd {α : Type} (atEnd words : String) : Reading α := do
  fail (if (← get).rest.isEmpty then atEnd else words)

def endOfValue : String := "EOF while parsing a value"
def endOfString : String := "EOF while parsing a string"
def endOfList : String := "EOF while parsing a list"
def endOfObject : String := "EOF while parsing an object"

/-! ### Scalars -/

/-- The letters of a word. -/
def letters : List Char → Reading Unit
  | [] => return
  | letter :: left => do
    if (← peek) = some letter then
      eat
      letters left
    else failOrEnd endOfValue "expected ident"

def invalidNumber : String := "invalid number"
def outOfRange : String := "number out of range"

/-- The rest of a number of at most some characters. One that is kept ends at the
    digit that makes its exponent too large; one that is skipped has no value. -/
def numeral (kept : Bool) : Nat → Numeral → Numeral.Stage → Reading Numeral
  | 0, found, _ => return found
  | fuel+1, found, stage => do
    match ← peek with
    | none =>
      if stage.complete then return found else fail (if kept then endOfValue else invalidNumber)
    | some c =>
      match found.advance stage c with
      | .longer longer next => do
        eat
        if kept && longer.overflows then failHere outOfRange else numeral kept fuel longer next
      | .ended => return found
      | .wrong => fail invalidNumber

/-- A number whose first character has been read; one that is kept has a value. -/
def number (first : Numeral × Numeral.Stage) (kept : Bool) : Reading Number := do
  let found ← numeral kept ((← get).rest.length+1) first.1 first.2
  match found.value? with
  | some value => return value
  | none => if kept then failHere outOfRange else return .integer 0

def invalidEscape : String := "invalid escape"
def controlCharacter : String := "control character (\\u0000-\\u001F) found while parsing a string"

/-- The number of bytes of a text. -/
def byteCount (text : List Char) : Nat := text.foldl (fun count c => count+c.utf8Size) 0

/-- The code unit of four hexadecimal digits. The four bytes are taken before they
    are looked at. -/
def codeUnit : Reading Nat := do
  let cursor ← get
  match cursor.rest.take 4 |>.mapM hexDigit? with
  | some [a,b,c,d] =>
    eat; eat; eat; eat
    return ((a*16+b)*16+c)*16+d
  | _ =>
    if byteCount cursor.rest < 4 then throw ⟨endOfString,cursor.offset+byteCount cursor.rest⟩
    else throw ⟨invalidEscape,cursor.offset+4⟩

/-- The character of an escaped code unit that is kept; the second unit of a pair
    has to follow the first. -/
def escapedUnit : Reading Char := do
  let high ← codeUnit
  if isLow high then failHere "lone leading surrogate in hex escape"
  else if !isHigh high then return Char.ofNat high
  else
    if (← peek) = some '\\' then eat else failOrEnd endOfString "unexpected end of hex escape"
    if (← peek) = some 'u' then eat else failOrEnd endOfString "unexpected end of hex escape"
    let low ← codeUnit
    if isLow low then return Char.ofNat (0x10000+(high-0xD800)*0x400+(low-0xDC00))
    else failHere "lone leading surrogate in hex escape"

/-- A string of at most some characters, after its quotation mark; one that is
    skipped may hold any code units. A control character belongs to the string
    only if the string is kept. -/
def string (kept : Bool) : Nat → List Char → Reading String
  | 0, sofar => return String.ofList sofar.reverse
  | fuel+1, sofar => do
    match ← peek with
    | none => fail endOfString
    | some '"' => do
      eat
      return String.ofList sofar.reverse
    | some '\\' => do
      eat
      match ← peek with
      | none => fail endOfString
      | some 'u' => do
        eat
        if kept then string kept fuel ((← escapedUnit) :: sofar)
        else
          let _ ← codeUnit
          string kept fuel sofar
      | some c =>
        match escaped? c with
        | some character => do
          eat
          string kept fuel (character :: sofar)
        | none => fail invalidEscape
    | some c =>
      if c.toNat < 0x20 then if kept then fail controlCharacter else failHere controlCharacter
      else
        eat
        string kept fuel (c :: sofar)

/-- A string after its quotation mark. -/
def stringBody (kept : Bool) : Reading String := do string kept ((← get).rest.length+1) []

/-! ### What is there instead -/

/-- A character of a string that is shown. -/
def showChar (c : Char) : List Char :=
  if c = '"' then ['\\','"']
  else if c = '\\' then ['\\','\\']
  else if c = '\n' then ['\\','n']
  else if c = '\r' then ['\\','r']
  else if c = '\t' then ['\\','t']
  else if c = '\x00' then ['\\','0']
  else if Text.isVisible c then [c]
  else ['\\','u','{'] ++ Nat.toDigits 16 c.toNat ++ ['}']

/-- A number that is shown. -/
def showNumber : Number → String
  | .integer value => "integer \x60" ++ toString value ++ "\x60"
  | .float value => "floating point \x60" ++ String.ofList value.text ++ "\x60"

/-- A scalar with some first character: what it is called when it is shown. -/
def scalar (kept : Bool) (c : Char) : Reading String := do
  if c = 'n' then
    eat
    letters ['u','l','l']
    return "null"
  else if c = 't' then
    eat
    letters ['r','u','e']
    return "boolean \x60true\x60"
  else if c = 'f' then
    eat
    letters ['a','l','s','e']
    return "boolean \x60false\x60"
  else if c = '"' then
    eat
    let text ← stringBody kept
    return "string \"" ++ String.ofList (text.toList.flatMap showChar) ++ "\""
  else match Numeral.first? c with
    | some first => do
      eat
      return showNumber (← number first kept)
    | none => fail "expected value"

/-- The fault at a value of the wrong kind. A scalar is read before it is refused,
    a container is refused at its bracket. -/
def wrongKind {α : Type} (shape : Shape) (c : Char) : Reading α := do
  let found ← if c = '[' then pure "sequence" else if c = '{' then pure "map" else scalar true c
  failHere ("invalid type: " ++ found ++ ", expected " ++ shape.text)

/-- An integer of thirty-two bits. -/
def uint32 (first : Numeral × Numeral.Stage) : Reading Unit := do
  eat
  match ← number first true with
  | .integer value =>
    if 0 ≤ value ∧ value < UInt32.size then return
    else failHere ("invalid value: " ++ showNumber (.integer value) ++ ", expected u32")
  | value => failHere ("invalid type: " ++ showNumber value ++ ", expected u32")

/-! ### Containers -/

/-- Whether another item comes in an array. -/
def moreItems (kept first : Bool) : Reading Bool := do
  match ← blanks with
  | none => fail endOfList
  | some ']' => return false
  | some c =>
    if first then return true
    else if c = ',' then
      eat
      if kept && (← blanks) = some ']' then fail "trailing comma"
      else if kept && (← peek).isNone then fail endOfValue
      else return true
    else fail "expected \x60,\x60 or \x60]\x60"

/-- Whether another member comes in an object; if so, moves to its name. -/
def moreMembers (kept first : Bool) : Reading Bool := do
  let word := "key must be a string"
  match ← blanks with
  | none => fail endOfObject
  | some '}' => return false
  | some c =>
    if first then if c = '"' then return true else fail word
    else if c = ',' then
      eat
      match ← blanks with
      | none => fail (if kept then endOfValue else endOfObject)
      | some '"' => return true
      | some c => fail (if kept && c = '}' then "trailing comma" else word)
    else fail "expected \x60,\x60 or \x60\x7d\x60"

/-- The name of a member, and the colon after it. A refused name is told up to what
    comes next, or up to the end of the object if that comes next. -/
def memberName (kept : Bool) (refuse : String → Option String) : Reading String := do
  eat
  let name ← stringBody kept
  let next ← blanks
  match refuse name with
  | some words => do
    if next = some '}' then eat
    failHere words
  | none =>
    if next = some ':' then
      eat
      return name
    else failOrEnd endOfObject "expected \x60:\x60"

/-- The end of an array of which no more items are expected. -/
def endOfItems : Reading Unit := do
  match ← blanks with
  | some ']' => eat
  | some ',' => do
    eat
    fail (if (← blanks) = some ']' then "trailing comma" else "trailing characters")
  | _ => failOrEnd endOfList "trailing characters"

mutual
/-- A value of a shape, or one that is skipped. -/
def value (fuel : Nat) (shape : Option Shape) : Reading Unit := do
  match fuel, ← blanks with
  | 0, _ => return
  | _+1, none => fail endOfValue
  | fuel+1, some c =>
    match shape with
    | none =>
      if c = '[' then
        eat
        items fuel none true
      else if c = '{' then
        eat
        skippedMembers fuel true
      else
        let _ ← scalar false c
    | some .string => if c = '"' then let _ ← scalar true c else wrongKind .string c
    | some .bool => if c = 't' || c = 'f' then let _ ← scalar true c else wrongKind .bool c
    | some .uint32 =>
      match Numeral.first? c with
      | some first => uint32 first
      | none => wrongKind .uint32 c
    | some (.option inner) => if c = 'n' then let _ ← scalar true c else value fuel (some inner)
    | some (.list inner) =>
      if c = '[' then
        eat
        items fuel (some inner) true
      else wrongKind (.list inner) c
    | some (.record name fields) =>
      if c = '[' then
        eat
        fieldItems fuel fields true
      else if c = '{' then
        eat
        members fuel fields [] true
      else wrongKind (.record name fields) c

/-- The items of an array, each of one shape. -/
def items (fuel : Nat) (shape : Option Shape) (first : Bool) : Reading Unit :=
  match fuel with
  | 0 => return
  | fuel+1 => do
    if ← moreItems shape.isSome first then
      value fuel shape
      items fuel shape false
    else eat

/-- The items of an array that stand for the fields of a record. -/
def fieldItems (fuel : Nat) (fields : List (String × Shape)) (first : Bool) : Reading Unit :=
  match fuel, fields with
  | 0, _ => return
  | _, [] => endOfItems
  | fuel+1, (_,shape) :: rest => do
    if ← moreItems true first then
      value fuel (some shape)
      fieldItems fuel rest false
    else eat

/-- The members of an object that is skipped. -/
def skippedMembers (fuel : Nat) (first : Bool) : Reading Unit :=
  match fuel with
  | 0 => return
  | fuel+1 => do
    if ← moreMembers false first then
      let _ ← memberName false fun _ => none
      value fuel none
      skippedMembers fuel false
    else eat

/-- The members of a record. -/
def members (fuel : Nat) (fields : List (String × Shape)) (seen : List String) (first : Bool) : Reading Unit :=
  match fuel with
  | 0 => return
  | fuel+1 => do
    if ← moreMembers true first then
      let name ← memberName true fun name =>
        if seen.contains name then some ("duplicate field \x60" ++ name ++ "\x60") else none
      value fuel (fields.lookup name)
      members fuel fields (if (fields.lookup name).isSome then name :: seen else seen) false
    else eat
end

/-- A whole document. -/
def document (fuel : Nat) (shape : Shape) : Reading Unit := do
  value fuel (some shape)
  if (← blanks).isSome then fail "trailing characters"

/-- The line and the column after some bytes of a text. -/
def place : List Char → Nat → Nat → Nat → Nat × Nat
  | [], _, line, column => (line,column)
  | c :: rest, offset, line, column =>
    if offset < c.utf8Size then (line,column+offset)
    else if c = '\n' then place rest (offset-1) (line+1) 0
    else place rest (offset-c.utf8Size) line (column+c.utf8Size)

end Diagnosis

/-- What is wrong with a text that is no document of a shape, and where. -/
def diagnose? (shape : Shape) (text : String) : Option String :=
  let chars := text.toList
  match (Diagnosis.document (4*chars.length+4) shape).run ⟨chars,0⟩ with
  | .ok _ => none
  | .error problem =>
    let (line,column) := Diagnosis.place chars problem.offset 1 0
    some (problem.words ++ " at line " ++ toString line ++ " column " ++ toString column)

end StackBroker.Json
