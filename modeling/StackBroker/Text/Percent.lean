import StackBroker.Text.Utf8

/-!
# Percent encoding and forms

Bytes written as a percent sign and two hexadecimal digits, and the pairs of a
form or query, which are separated by ampersands. A percent sign that no two
digits follow stands for itself.
-/
namespace StackBroker.Percent

/-- The value of a hexadecimal digit of either case. -/
def hexValue? (byte : UInt8) : Option Nat :=
  let code := byte.toNat
  if 0x30 ≤ code ∧ code ≤ 0x39 then some (code-0x30)
  else if 0x41 ≤ code ∧ code ≤ 0x46 then some (code-0x37)
  else if 0x61 ≤ code ∧ code ≤ 0x66 then some (code-0x57)
  else none

/-- The upper-case hexadecimal digit of a value below sixteen. -/
def hexDigit (value : Nat) : UInt8 := UInt8.ofNat (if value < 10 then 0x30+value else 0x37+value)

/-- Every byte as a percent sign and two digits. -/
def encode : List UInt8 → List UInt8
  | [] => []
  | byte :: rest => 0x25 :: hexDigit (byte.toNat/16) :: hexDigit (byte.toNat%16) :: encode rest

/-- A text with each of its bytes encoded. -/
def encodeText (text : String) : String :=
  String.ofList ((encode (Utf8.encode text)).map fun byte => Char.ofNat byte.toNat)

/-- The byte of two hexadecimal digits. -/
def pair? (first second : UInt8) : Option UInt8 := do
  let high ← hexValue? first
  let low ← hexValue? second
  some (UInt8.ofNat (high*16+low))

/-- Bytes with every percent sign and two digits read as one byte. -/
def decode : List UInt8 → List UInt8
  | [] => []
  | [a] => [a]
  | [a,b] => [a,b]
  | a :: b :: c :: rest =>
    if a = 0x25 then
      match pair? b c with
      | some byte => byte :: decode rest
      | none => a :: decode (b :: c :: rest)
    else a :: decode (b :: c :: rest)

end StackBroker.Percent

namespace StackBroker.Form

/-- The pieces between the bytes equal to a separator. -/
def splitAll (separator : UInt8) : List UInt8 → List (List UInt8)
  | [] => [[]]
  | byte :: rest =>
    if byte = separator then [] :: splitAll separator rest
    else match splitAll separator rest with
      | [] => [[byte]]
      | first :: others => (byte :: first) :: others

/-- What stands before and after the first separator; nothing stands after a
    separator that is missing. -/
def splitOnce (separator : UInt8) (bytes : List UInt8) : List UInt8 × List UInt8 :=
  (bytes.takeWhile (· != separator),(bytes.dropWhile (· != separator)).drop 1)

/-- The text of a name or value: a plus sign is a space, then percent signs are
    read, then the bytes are text. -/
def component (bytes : List UInt8) : String :=
  Utf8.decodeLossy (Percent.decode (bytes.map (fun byte => if byte = 0x2B then 0x20 else byte)))

/-- The pairs of a form in their order; empty pieces are no pairs. -/
def pairs (bytes : List UInt8) : List (String × String) :=
  ((splitAll 0x26 bytes).filter (fun piece => !piece.isEmpty)).map fun piece =>
    let (name,value) := splitOnce 0x3D piece
    (component name,component value)

end StackBroker.Form
