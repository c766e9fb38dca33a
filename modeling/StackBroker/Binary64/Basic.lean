/-!
# Binary64

Floating-point numbers of sixty-four bits, kept as their words. A finite word
stands for its significand times a power of two, counted from the smallest
positive number, and every operation rounds its exact result to the nearest
word, a tie going to the even one.
-/
namespace StackBroker

/-- A number in the interchange format of sixty-four bits. -/
structure Binary64 where
  bits : UInt64
deriving DecidableEq, Repr, Inhabited

namespace Binary64

/-- The low fifty-two bits. -/
def fraction (x : Binary64) : Nat := x.bits.toNat%Nat.pow 2 52

/-- The eleven bits above them. -/
def exponent (x : Binary64) : Nat := x.bits.toNat/Nat.pow 2 52%Nat.pow 2 11

def negative (x : Binary64) : Bool := Nat.pow 2 63 ≤ x.bits.toNat

/-- Neither infinite nor no number. -/
def isFinite (x : Binary64) : Bool := x.exponent != 2047

def isZero (x : Binary64) : Bool := x.exponent == 0 && x.fraction == 0

/-- The integer that a power of two scales; normal words have a leading bit more. -/
def significand (x : Binary64) : Nat := if x.exponent = 0 then x.fraction else Nat.pow 2 52+x.fraction

/-- The power of two of a word, from the smallest positive number up. -/
def scale (x : Binary64) : Nat := x.exponent-1

/-- The nearest integer to a quotient, the even one of two that are as near. -/
def nearest (numerator denominator : Nat) : Nat :=
  let quotient := numerator/denominator
  let twice := 2*(numerator%denominator)
  if twice < denominator then quotient
  else if denominator < twice then quotient+1
  else quotient+quotient%2

/-- The word of infinity. -/
def infinityWord : Nat := 2047*Nat.pow 2 52

/-- The word nearest to a quotient. A significand that rounds up to the next
    power of two carries into the exponent. -/
def magnitude (numerator denominator : Nat) : Nat :=
  let numerator := numerator*Nat.pow 2 1074
  let shift := Nat.log2 (numerator/denominator)-52
  min infinityWord (shift*Nat.pow 2 52+nearest numerator (denominator*Nat.pow 2 shift))

/-- The number of a sign and a quotient. -/
def ofRatio (negative : Bool) (numerator denominator : Nat) : Binary64 :=
  ⟨UInt64.ofNat ((if negative then Nat.pow 2 63 else 0)+magnitude numerator denominator)⟩

def ofNat (value : Nat) : Binary64 := ofRatio false value 1

def ofInt (value : Int) : Binary64 := ofRatio (value < 0) value.natAbs 1

/-- The number with the other sign. -/
def neg (x : Binary64) : Binary64 := ⟨x.bits ^^^ 0x8000000000000000⟩

/-- The rounded product of finite numbers. -/
def mul (x y : Binary64) : Binary64 :=
  ofRatio (x.negative != y.negative) (x.significand*y.significand*Nat.pow 2 (x.scale+y.scale))
    (Nat.pow 2 2148)

/-- The rounded quotient of finite numbers, the second not zero. -/
def div (x y : Binary64) : Binary64 :=
  ofRatio (x.negative != y.negative) (x.significand*Nat.pow 2 x.scale) (y.significand*Nat.pow 2 y.scale)

/-- The number nearest to a power of ten. -/
def powerOfTen (exponent : Nat) : Binary64 := ofNat (Nat.pow 10 exponent)

end Binary64
end StackBroker
