/-!
# Base64

The standard alphabet with padding. Reading accepts only what writing produces:
the padding is required and the bits that no byte uses are zero.
-/
namespace StackBroker.Base64

/-- The digit of a value below sixty-four: capital letters, small letters, decimal
    digits, and two signs. -/
def digit (value : Nat) : Char :=
  if value < 26 then Char.ofNat (value+65)
  else if value < 52 then Char.ofNat (value+71)
  else if value < 62 then Char.ofNat (value-4)
  else if value = 62 then '+'
  else '/'

/-- The value of a digit. -/
def value? (c : Char) : Option Nat :=
  if 'A' ≤ c ∧ c ≤ 'Z' then some (c.toNat-65)
  else if 'a' ≤ c ∧ c ≤ 'z' then some (c.toNat-71)
  else if '0' ≤ c ∧ c ≤ '9' then some (c.toNat+4)
  else if c = '+' then some 62
  else if c = '/' then some 63
  else none

/-- Three bytes become four digits; a last group of one or two bytes is padded. -/
def encode : List UInt8 → List Char
  | [] => []
  | [a] => [digit (a.toNat/4),digit (a.toNat%4*16),'=','=']
  | [a,b] => [digit (a.toNat/4),digit (a.toNat%4*16+b.toNat/16),digit (b.toNat%16*4),'=']
  | a :: b :: c :: rest =>
    digit (a.toNat/4) :: digit (a.toNat%4*16+b.toNat/16) :: digit (b.toNat%16*4+c.toNat/64) ::
      digit (c.toNat%64) :: encode rest

/-- The byte of two digits before two padding characters. -/
def lastOne (p q : Char) : Option (List UInt8) := do
  let first ← value? p
  let second ← value? q
  if second%16 = 0 then some [UInt8.ofNat (first*4+second/16)] else none

/-- The bytes of three digits before one padding character. -/
def lastTwo (p q r : Char) : Option (List UInt8) := do
  let first ← value? p
  let second ← value? q
  let third ← value? r
  if third%4 = 0 then
    some [UInt8.ofNat (first*4+second/16),UInt8.ofNat (second%16*16+third/4)]
  else none

/-- The bytes of four digits. -/
def group (p q r s : Char) : Option (List UInt8) := do
  let first ← value? p
  let second ← value? q
  let third ← value? r
  let fourth ← value? s
  some [UInt8.ofNat (first*4+second/16),UInt8.ofNat (second%16*16+third/4),UInt8.ofNat (third%4*64+fourth)]

/-- The bytes of a text in the form that `encode` gives. Padding ends the text. -/
def decode : List Char → Option (List UInt8)
  | [] => some []
  | p :: q :: r :: s :: rest =>
    if s = '=' then
      if rest = [] then if r = '=' then lastOne p q else lastTwo p q r else none
    else (group p q r s).bind fun bytes => (decode rest).map (bytes ++ ·)
  | [_] | [_,_] | [_,_,_] => none

end StackBroker.Base64
