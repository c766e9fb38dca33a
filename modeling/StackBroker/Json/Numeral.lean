import StackBroker.Json.Basic

/-!
# Numerals

The literals of numbers, digit by digit, and their values. A literal without
fraction and exponent is an integer if sixty-four bits hold it. Any other is a
floating-point number, read the fast way: digits are gathered as long as
sixty-four bits hold them, an integer digit that no longer fits raises the
exponent, a fraction digit that no longer fits is dropped, and what was gathered
is multiplied or divided once by a power of ten. A literal too large for a
finite number has no value.
-/
namespace StackBroker

/-- The parts of a literal; the digits of each part are in reverse. -/
structure Numeral where
  negative : Bool
  whole : List Nat
  fraction : List Nat
  exponentNegative : Bool
  exponent : List Nat
deriving DecidableEq, Repr

namespace Numeral

/-! ### The form of a literal -/

/-- How far a literal has been read. -/
inductive Stage where
  | minus
  | zero
  | whole
  | point
  | fraction
  | mark
  | sign
  | exponent
deriving DecidableEq, Repr

/-- The literal may end here. -/
def Stage.complete : Stage → Bool
  | .zero | .whole | .fraction | .exponent => true
  | .minus | .point | .mark | .sign => false

/-- What one more character makes of a literal. -/
inductive Advance where
  | longer (numeral : Numeral) (stage : Stage)
  | ended
  | wrong
deriving Repr

/-- The value of a decimal digit. -/
def digit? (c : Char) : Option Nat := if '0' ≤ c ∧ c ≤ '9' then some (c.toNat-48) else none

/-- The literal that a character begins. -/
def first? (c : Char) : Option (Numeral × Stage) :=
  if c = '-' then some (⟨true,[],[],false,[]⟩,.minus)
  else (digit? c).map fun d => (⟨false,[d],[],false,[]⟩,if d = 0 then .zero else .whole)

/-- Where a literal ends or is wrong, if the character does not prolong it. -/
private def halt (stage : Stage) : Advance := if stage.complete then .ended else .wrong

/-- One character after a literal. A zero at the start takes no further digit. -/
def advance (n : Numeral) (stage : Stage) (c : Char) : Advance :=
  match digit? c, stage with
  | some d, .minus => .longer { n with whole := [d] } (if d = 0 then .zero else .whole)
  | some _, .zero => .wrong
  | some d, .whole => .longer { n with whole := d :: n.whole } .whole
  | some d, .point | some d, .fraction => .longer { n with fraction := d :: n.fraction } .fraction
  | some d, .mark | some d, .sign | some d, .exponent =>
    .longer { n with exponent := d :: n.exponent } .exponent
  | none, .zero | none, .whole =>
    if c = '.' then .longer n .point
    else if c = 'e' ∨ c = 'E' then .longer n .mark
    else halt stage
  | none, .fraction => if c = 'e' ∨ c = 'E' then .longer n .mark else halt stage
  | none, .mark =>
    if c = '+' then .longer n .sign
    else if c = '-' then .longer { n with exponentNegative := true } .sign
    else halt stage
  | none, _ => halt stage

/-! ### The value of a literal -/

/-- The integer of digits from the first to the last. -/
def positional (digits : List Nat) : Nat := digits.foldl (fun value d => 10*value+d) 0

/-- Gathers digits as long as sixty-four bits hold the result, and keeps those
    that come after. -/
def gather : Nat → List Nat → Nat × List Nat
  | value, [] => (value,[])
  | value, d :: rest => if value*10+d < UInt64.size then gather (value*10+d) rest else (value,d :: rest)

/-- Divides by the largest power of ten, as often as told or until zero. -/
def shrink : Nat → Binary64 → Binary64
  | 0, x => x
  | times+1, x => if x.isZero then x else shrink times (x.div (.powerOfTen 308))

/-- A gathered integer times a power of ten, if it is finite. -/
def scaled (value : Nat) (power : Int) : Option Binary64 :=
  let x := Binary64.ofNat value
  let result :=
    if 308 < power then if x.isZero then some x else none
    else if 0 ≤ power then some (x.mul (.powerOfTen power.toNat))
    else
      let depth := power.natAbs
      let times := (depth-1)/308
      some ((shrink times x).div (.powerOfTen (depth-308*times)))
  result.filter Binary64.isFinite

/-- The largest exponent that is gathered. -/
def exponentLimit : Nat := 2147483647

/-- The gathered digits of a literal, and the power of ten that they are short of. -/
def significand (n : Numeral) : Nat × Int :=
  let (whole,unread) := gather 0 n.whole.reverse
  let (value,dropped) := gather whole n.fraction.reverse
  (value,unread.length-(n.fraction.length-dropped.length : Nat))

/-- The magnitude of the exponent. -/
def exponentSize (n : Numeral) : Nat := positional n.exponent.reverse

/-- An exponent too large for any number but zero. -/
def overflows (n : Numeral) : Bool :=
  exponentLimit < n.exponentSize && !n.exponentNegative && n.significand.1 ≠ 0

/-- The magnitude of a literal as a floating-point number. -/
def float? (n : Numeral) : Option Binary64 :=
  let (value,shift) := n.significand
  if n.overflows then none
  else if exponentLimit < n.exponentSize then some (Binary64.ofNat 0)
  else scaled value (if n.exponentNegative then shift-n.exponentSize else shift+n.exponentSize)

/-- The value of a literal, if a number can hold it. Zero with a minus sign is a
    floating-point number. -/
def value? (n : Numeral) : Option Number :=
  let whole := positional n.whole.reverse
  if n.fraction.isEmpty && n.exponent.isEmpty && !n.negative && whole < UInt64.size then some (.integer whole)
  else if n.fraction.isEmpty && n.exponent.isEmpty && n.negative && 0 < whole && whole ≤ Nat.pow 2 63 then
    some (.integer (-whole))
  else n.float?.map fun x => .float (if n.negative then x.neg else x)

end Numeral
end StackBroker
