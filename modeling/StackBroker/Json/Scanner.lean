import StackBroker.Text.Utf8
import StackBroker.Json.Node
import StackBroker.Json.Numeral

/-!
# Scanning JSON

An automaton that reads a JSON text glyph by glyph and keeps the open containers
on a stack, so that a scan is one fold over the text. Where the text stops being
JSON the automaton is stuck, and the containers that are still open are closed
as broken ones. Containers may be nested to any depth; those deeper than the
limit are found but not kept.
-/
namespace StackBroker.Json
open StackBroker.Utf8 (Glyph)

/-! ### Strings -/

/-- A part of a string's content: a character, an escaped code unit, or the mark
    of bytes that are no character. -/
inductive Piece where
  | char (c : Char)
  | unit (code : Nat)
  | mark
deriving DecidableEq, Repr

/-- A code unit that begins a pair. -/
def isHigh (code : Nat) : Bool := 0xD800 ≤ code && code < 0xDC00

/-- A code unit that ends a pair. -/
def isLow (code : Nat) : Bool := 0xDC00 ≤ code && code < 0xE000

/-- The text of a string's content, if its code units pair up and no mark is in it. -/
def resolve : List Piece → Option (List Char)
  | [] => some []
  | .mark :: _ => none
  | .char c :: rest => (resolve rest).map (c :: ·)
  | .unit high :: .unit low :: rest =>
    if isHigh high && isLow low then
      (resolve rest).map (Char.ofNat (0x10000+(high-0xD800)*0x400+(low-0xDC00)) :: ·)
    else if isHigh high || isLow high then none
    else (resolve (.unit low :: rest)).map (Char.ofNat high :: ·)
  | .unit code :: rest =>
    if isHigh code || isLow code then none else (resolve rest).map (Char.ofNat code :: ·)

/-- The character that a letter after a backslash stands for. -/
def escaped? (c : Char) : Option Char :=
  if c = '"' then some '"' else if c = '\\' then some '\\' else if c = '/' then some '/'
  else if c = 'b' then some '\x08' else if c = 'f' then some '\x0c' else if c = 'n' then some '\n'
  else if c = 'r' then some '\r' else if c = 't' then some '\t' else none

/-- The value of a hexadecimal digit of either case. -/
def hexDigit? (c : Char) : Option Nat :=
  if '0' ≤ c ∧ c ≤ '9' then some (c.toNat-48)
  else if 'a' ≤ c ∧ c ≤ 'f' then some (c.toNat-87)
  else if 'A' ≤ c ∧ c ≤ 'F' then some (c.toNat-55)
  else none

/-! ### The automaton -/

/-- An open container; what it holds so far is in reverse. -/
inductive Frame where
  | array (items : List Node)
  /-- The members, and the name whose value is to come. -/
  | object (members : List (Option String × Node)) (name : Option (Option String))
deriving Repr

/-- What may come next between two tokens. -/
inductive Place where
  /-- A value has to come. -/
  | value
  /-- A value or the end of the array. -/
  | firstItem
  /-- A name has to come. -/
  | name
  /-- A name or the end of the object. -/
  | firstName
  | colon
  /-- A comma or the end of the container. -/
  | next
deriving DecidableEq, Repr

/-- Where in a token, or between which tokens, the automaton is. The pieces of a
    string are in reverse. -/
inductive Mode where
  | between (place : Place)
  | text (isName : Bool) (pieces : List Piece)
  | escape (isName : Bool) (pieces : List Piece)
  | hex (isName : Bool) (pieces : List Piece) (left code : Nat)
  | word (left : List Char) (node : Node)
  | numeral (numeral : Numeral) (stage : Numeral.Stage)
  /-- The first value is complete. -/
  | done (root : Node)
  /-- Something other than blanks followed it. -/
  | trailing (root : Node)
  | stuck
deriving Repr

/-- The state of a scan. -/
structure Scanner where
  frames : List Frame
  mode : Mode
deriving Repr

namespace Scanner

/-- The deepest nesting of containers that are kept. -/
def depthLimit : Nat := 127

def start : Scanner := ⟨[],.between .value⟩

/-- The blanks between tokens. -/
def isSpace (c : Char) : Bool := c = ' ' || c = '\t' || c = '\n' || c = '\r'

/-- The state after a complete value inside some open containers. -/
def complete (frames : List Frame) (node : Node) : Scanner :=
  match frames with
  | [] => ⟨[],.done node⟩
  | .array items :: outer => ⟨.array (node :: items) :: outer,.between .next⟩
  | .object members (some name) :: outer => ⟨.object ((name,node) :: members) none :: outer,.between .next⟩
  | .object members none :: outer => ⟨.object members none :: outer,.stuck⟩

/-- A container at a depth, which is not kept below the limit. -/
def atDepth (depth : Nat) (closed : Bool) (node : Node) : Node :=
  if depthLimit < depth then .buried closed else node

/-- The state after the bracket that closes the innermost container. -/
def close (frames : List Frame) : Scanner :=
  match frames with
  | [] => ⟨[],.stuck⟩
  | .array items :: outer =>
    complete outer (atDepth frames.length true (.array items.reverse true))
  | .object members _ :: outer =>
    complete outer (atDepth frames.length true (.object members.reverse true))

/-- The state after the first character of a value. -/
def openValue (frames : List Frame) (c : Char) : Scanner :=
  if c = '"' then ⟨frames,.text false []⟩
  else if c = '[' then ⟨.array [] :: frames,.between .firstItem⟩
  else if c = '{' then ⟨.object [] none :: frames,.between .firstName⟩
  else if c = 't' then ⟨frames,.word ['r','u','e'] (.bool true)⟩
  else if c = 'f' then ⟨frames,.word ['a','l','s','e'] (.bool false)⟩
  else if c = 'n' then ⟨frames,.word ['u','l','l'] .null⟩
  else match Numeral.first? c with
    | some (numeral,stage) => ⟨frames,.numeral numeral stage⟩
    | none => ⟨frames,.stuck⟩

/-- The state after a character other than a blank between two tokens. -/
def token (frames : List Frame) (place : Place) (c : Char) : Scanner :=
  match place, frames with
  | .value, _ => openValue frames c
  | .firstItem, _ => if c = ']' then close frames else openValue frames c
  | .name, _ => if c = '"' then ⟨frames,.text true []⟩ else ⟨frames,.stuck⟩
  | .firstName, _ =>
    if c = '"' then ⟨frames,.text true []⟩ else if c = '}' then close frames else ⟨frames,.stuck⟩
  | .colon, _ => if c = ':' then ⟨frames,.between .value⟩ else ⟨frames,.stuck⟩
  | .next, .array _ :: _ =>
    if c = ',' then ⟨frames,.between .value⟩ else if c = ']' then close frames else ⟨frames,.stuck⟩
  | .next, .object _ _ :: _ =>
    if c = ',' then ⟨frames,.between .name⟩ else if c = '}' then close frames else ⟨frames,.stuck⟩
  | .next, [] => ⟨frames,.stuck⟩

/-- The state after the quotation mark that ends a string. -/
def endText (frames : List Frame) (isName : Bool) (pieces : List Piece) : Scanner :=
  let text := (resolve pieces.reverse).map String.ofList
  if isName then
    match frames with
    | .object members _ :: outer => ⟨.object members (some text) :: outer,.between .colon⟩
    | _ => ⟨frames,.stuck⟩
  else complete frames (.string text)

/-- One glyph between tokens or after the first value. -/
def stepOutside (state : Scanner) (glyph : Glyph) : Scanner :=
  match state.mode, glyph with
  | .between place, some c => if isSpace c then state else token state.frames place c
  | .between _, none => ⟨state.frames,.stuck⟩
  | .done root, some c => if isSpace c then state else ⟨state.frames,.trailing root⟩
  | .done root, none => ⟨state.frames,.trailing root⟩
  | _, _ => state

/-- One glyph. -/
def step (state : Scanner) (glyph : Glyph) : Scanner :=
  match state.mode, glyph with
  | .text isName pieces, some c =>
    if c = '"' then endText state.frames isName pieces
    else if c = '\\' then ⟨state.frames,.escape isName pieces⟩
    else if c.toNat < 0x20 then ⟨state.frames,.stuck⟩
    else ⟨state.frames,.text isName (.char c :: pieces)⟩
  | .text isName pieces, none => ⟨state.frames,.text isName (.mark :: pieces)⟩
  | .escape isName pieces, some c =>
    if c = 'u' then ⟨state.frames,.hex isName pieces 4 0⟩
    else match escaped? c with
      | some character => ⟨state.frames,.text isName (.char character :: pieces)⟩
      | none => ⟨state.frames,.stuck⟩
  | .escape _ _, none => ⟨state.frames,.stuck⟩
  | .hex isName pieces left code, some c =>
    match hexDigit? c with
    | some digit =>
      if left ≤ 1 then ⟨state.frames,.text isName (.unit (code*16+digit) :: pieces)⟩
      else ⟨state.frames,.hex isName pieces (left-1) (code*16+digit)⟩
    | none => ⟨state.frames,.stuck⟩
  | .hex .., none => ⟨state.frames,.stuck⟩
  | .word [] _, _ => ⟨state.frames,.stuck⟩
  | .word [last] node, some c => if c = last then complete state.frames node else ⟨state.frames,.stuck⟩
  | .word (letter :: left) node, some c =>
    if c = letter then ⟨state.frames,.word left node⟩ else ⟨state.frames,.stuck⟩
  | .word .., none => ⟨state.frames,.stuck⟩
  | .numeral numeral stage, some c =>
    match numeral.advance stage c with
    | .longer longer next => ⟨state.frames,.numeral longer next⟩
    | .ended => stepOutside (complete state.frames (.number numeral.value?)) glyph
    | .wrong => ⟨state.frames,.stuck⟩
  | .numeral numeral stage, none =>
    if stage.complete then stepOutside (complete state.frames (.number numeral.value?)) glyph
    else ⟨state.frames,.stuck⟩
  | .between _, _ | .done _, _ => stepOutside state glyph
  | .trailing _, _ | .stuck, _ => state

/-- The node of open containers that will not be closed; the innermost may hold
    a node more. -/
def abandon (pending : Option Node) : List Frame → Node
  | [] => pending.getD .broken
  | .array items :: outer =>
    abandon (some (atDepth (outer.length+1) false (.array (items.reverse ++ pending.toList) false))) outer
  | .object members name :: outer =>
    let last := name.toList.map fun name => (name,pending.getD .broken)
    abandon (some (atDepth (outer.length+1) false (.object (members.reverse ++ last) false))) outer

/-- The state after the end of the text, which ends a literal. -/
def settle (state : Scanner) : Scanner :=
  match state.mode with
  | .numeral numeral stage =>
    if stage.complete then complete state.frames (.number numeral.value?) else state
  | _ => state

/-- The document of a state at the end of the text. -/
def finish (state : Scanner) : Document :=
  match state.settle.mode with
  | .done root => ⟨root,true⟩
  | .trailing root => ⟨root,false⟩
  | _ => ⟨abandon none state.settle.frames,false⟩

/-- The state after some glyphs. -/
def run (state : Scanner) (glyphs : List Glyph) : Scanner := glyphs.foldl step state

end Scanner

/-- The document of a text whose bytes were decoded to glyphs. -/
def scan (glyphs : List Glyph) : Document := (Scanner.start.run glyphs).finish

/-- The document of a text. -/
def scanText (text : String) : Document := scan (text.toList.map some)

end StackBroker.Json
