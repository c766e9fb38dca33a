import StackBroker.Binary64.Basic

/-!
# Shortest decimals

The decimal text of a finite number: the fewest digits that are nearer to it
than to any other number, and of those the nearest to its value.
-/
namespace StackBroker.Binary64

/-- A digit string and the power of ten of its last digit. -/
structure Decimal where
  digits : Nat
  power : Int
deriving DecidableEq, Repr

/-- The number of decimal digits of a positive integer. -/
def digitCount (value : Nat) : Nat := (Nat.toDigits 10 value).length

/-- The power of ten of the first digit of a positive quotient. -/
def leadingPower (numerator denominator : Nat) : Int :=
  if denominator ≤ numerator then (digitCount (numerator/denominator) : Int)-1
  else -(digitCount ((denominator-1)/numerator) : Int)

/-- A decimal as a quotient. -/
def Decimal.ratio (d : Decimal) : Nat × Nat :=
  if 0 ≤ d.power then (d.digits*Nat.pow 10 d.power.toNat,1) else (d.digits,Nat.pow 10 (-d.power).toNat)

/-- Whether a decimal rounds to a number. The bounds are the midpoints between it
    and its neighbours, which belong to it if its significand is even. -/
def Decimal.reads (d : Decimal) (x : Binary64) : Bool :=
  let unit := Nat.pow 2 1076
  let below := if x.fraction = 0 ∧ 1 < x.exponent then 4*x.significand-1 else 4*x.significand-2
  let above := 4*x.significand+2
  let (numerator,denominator) := d.ratio
  let point := numerator*unit
  let low := below*Nat.pow 2 x.scale*denominator
  let high := above*Nat.pow 2 x.scale*denominator
  if x.significand%2 = 0 then low ≤ point && point ≤ high else low < point && point < high

/-- The decimal of a count of digits that reads as a number, if there is one: the
    nearer of the two neighbours of the value on the grid of that count, and of
    two that are as near the even one. -/
def decimalOf? (x : Binary64) (count : Nat) : Option Decimal :=
  let numerator := x.significand*Nat.pow 2 x.scale
  let denominator := Nat.pow 2 1074
  let power := leadingPower numerator denominator+1-count
  let (top,bottom) :=
    if 0 ≤ power then (numerator,denominator*Nat.pow 10 power.toNat)
    else (numerator*Nat.pow 10 (-power).toNat,denominator)
  let near := nearest top bottom
  let under := top/bottom
  [near,under,under+1].findSome? fun digits =>
    let candidate : Decimal := ⟨digits,power⟩
    if candidate.reads x then some candidate else none

/-- The shortest decimal of a positive finite number; seventeen digits always do. -/
def shortest (x : Binary64) : Decimal :=
  ((List.range 17).findSome? (fun index => decimalOf? x (index+1))).getD ⟨0,0⟩

/-- A decimal without the zeros at its end. -/
def Decimal.trimmed : Nat → Decimal → Decimal
  | 0, d => d
  | fuel+1, d => if d.digits%10 = 0 ∧ d.digits ≠ 0 then Decimal.trimmed fuel ⟨d.digits/10,d.power+1⟩ else d

private def zeros (count : Nat) : List Char := List.replicate count '0'

/-- An exponent with its sign. -/
private def exponentText (power : Int) : List Char :=
  'e' :: (if 0 ≤ power then ['+'] else ['-']) ++ Nat.toDigits 10 power.natAbs

/-- The text of a decimal: positional where the point falls from five places
    before the digits to sixteen after the first, else with an exponent. -/
def Decimal.text (d : Decimal) : List Char :=
  let digits := Nat.toDigits 10 d.digits
  let point : Int := digits.length+d.power
  if 0 ≤ d.power ∧ point ≤ 16 then digits ++ zeros d.power.toNat ++ ['.','0']
  else if 0 < point ∧ point ≤ 16 then digits.take point.toNat ++ ['.'] ++ digits.drop point.toNat
  else if -5 < point ∧ point ≤ 0 then ['0','.'] ++ zeros (-point).toNat ++ digits
  else
    match digits with
    | [] => exponentText (point-1)
    | [only] => only :: exponentText (point-1)
    | first :: rest => first :: '.' :: rest ++ exponentText (point-1)

/-- The text of a finite number. -/
def text (x : Binary64) : List Char :=
  let body := if x.isZero then ['0','.','0'] else (Decimal.trimmed 17 x.shortest).text
  if x.negative then '-' :: body else body

end StackBroker.Binary64
