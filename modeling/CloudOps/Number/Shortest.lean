import CloudOps.Number.Decimal

/-!
# Shortest decimal text of floating point values

The text of a value has the fewest digits that read back as the value. Of two such decimals the
nearer one is taken, and of two equally near ones the greater.

* `Binary64.decimalOn`: the best decimal with `n` digits, if one reads back. Only the two
  neighbours of the value on the grid of `n` digits can do so, or no point of that grid does.
* `Binary64.shortest`: the decimal of fewest digits.
* `Binary64.toText`: its positional form, never with a power of ten.
* `Binary64.toExponentText`: the form with a power of ten for values of 10^16 and above and for
  those below 10^-4, and a point in all others.
-/

namespace CloudOps

namespace Binary64

/-- The number of decimal digits of a natural number, one for zero. -/
def digitCount (n : Nat) : Nat := (Nat.toDigits 10 n).length

/-- The power of ten of the first digit of a quotient of positive numbers. The estimate from the
lengths of both numbers is right or one too large. -/
def ratioLog10 (n d : Nat) : Int :=
  let k : Int := (digitCount n : Int) - digitCount d
  if d * Nat.pow 10 k.toNat ≤ n * Nat.pow 10 (-k).toNat then k else k - 1

/-- `digits · 10 ^ exponent`. -/
structure Decimal where
  digits : Nat
  exponent : Int
  deriving DecidableEq, Repr

/-- Whether the decimal is nearest to the value, the sign aside. -/
def readsBack (x : Binary64) (decimal : Decimal) : Bool :=
  (ofDecimal false decimal.digits decimal.exponent).magnitude == x.magnitude

/-- The best decimal with `count` digits that reads back as the value: one of the value's
neighbours on the grid of that many digits, the nearer one if both read back, the upper one if
they are equally near. -/
def decimalOn (x : Binary64) (count : Nat) : Option Decimal :=
  let n := x.ratio.1
  let d := x.ratio.2
  let unit := ratioLog10 n d - (count - 1 : Nat)
  let top := n * Nat.pow 10 (-unit).toNat
  let bottom := d * Nat.pow 10 unit.toNat
  let lower : Decimal := ⟨top / bottom, unit⟩
  let upper : Decimal := ⟨top / bottom + 1, unit⟩
  match readsBack x lower, readsBack x upper with
  | true, true => if 2 * (top % bottom) < bottom then some lower else some upper
  | true, false => some lower
  | false, true => some upper
  | false, false => none

/-- The exact decimal of a value: every binary fraction is a decimal fraction. -/
def exactDecimal (x : Binary64) : Decimal :=
  let places := (-x.quantum).toNat
  ⟨x.ratio.1 * Nat.pow 5 places, -(places : Int)⟩

/-- The first decimal that reads back among those with `count` digits or more. -/
def shortestFrom (x : Binary64) : Nat → Nat → Decimal
  | 0, _ => x.exactDecimal
  | tries + 1, count => (decimalOn x count).getD (shortestFrom x tries (count + 1))

/-- The same decimal without zeros at its end. The count bounds the zeros that are dropped. -/
def Decimal.trimmed : Nat → Decimal → Decimal
  | 0, decimal => decimal
  | count + 1, decimal =>
    if decimal.digits % 10 = 0 ∧ decimal.digits ≠ 0 then
      trimmed count ⟨decimal.digits / 10, decimal.exponent + 1⟩
    else decimal

/-- The decimal of fewest digits that reads back. Seventeen digits always do. The upper neighbour
of a value may be a power of ten, and then has a zero too many. -/
def shortest (x : Binary64) : Decimal :=
  if x.isZero then ⟨0, 0⟩ else (shortestFrom x 17 1).trimmed 17

/-! ## Text -/

/-- A decimal without a power of ten. -/
def Decimal.positional (decimal : Decimal) : List Char :=
  let digits := Nat.toDigits 10 decimal.digits
  if 0 ≤ decimal.exponent then digits ++ List.replicate decimal.exponent.toNat '0'
  else
    let places := (-decimal.exponent).toNat
    if places < digits.length then
      digits.take (digits.length - places) ++ '.' :: digits.drop (digits.length - places)
    else '0' :: '.' :: (List.replicate (places - digits.length) '0' ++ digits)

/-- The sign that is written in front. -/
def signText (x : Binary64) : List Char := if x.negative then ['-'] else []

/-- The positional text of a value. -/
def toText (x : Binary64) : String :=
  if x.isNaN then "NaN"
  else if x.isInfinite then String.ofList (x.signText ++ ['i', 'n', 'f'])
  else String.ofList (x.signText ++ x.shortest.positional)

/-- A decimal with a point, a zero behind it where nothing else stands there. -/
def Decimal.pointed (decimal : Decimal) : List Char :=
  if 0 ≤ decimal.exponent then decimal.positional ++ ['.', '0'] else decimal.positional

/-- A decimal as one digit, a point, the other digits and a power of ten with a sign and at
least two digits. -/
def Decimal.scientific (decimal : Decimal) : List Char :=
  let digits := Nat.toDigits 10 decimal.digits
  let power : Int := decimal.exponent + (digits.length - 1 : Nat)
  let fraction := digits.drop 1
  digits.take 1 ++ (if fraction.isEmpty then [] else '.' :: fraction)
    ++ ['e', if power < 0 then '-' else '+'] ++ (Text.paddedText 2 power.natAbs).toList

/-- The text of a finite value with a point or a power of ten, so that it never looks like a
whole number. -/
def toExponentText (x : Binary64) : String :=
  let decimal := x.shortest
  let power : Int := decimal.exponent + (digitCount decimal.digits - 1 : Nat)
  String.ofList <| x.signText ++
    if x.isZero ∨ (-4 ≤ power ∧ power < 16) then decimal.pointed else decimal.scientific

end Binary64

end CloudOps
