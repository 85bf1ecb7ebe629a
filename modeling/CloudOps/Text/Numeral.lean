/-!
# Whole numbers in text

Numerals as options and attributes hold them: an optional sign and ASCII digits, nothing else.

* `digitsValue`: the number that digits stand for.
* `hexValue?`: the value of a digit in base sixteen.
* `readNat?`: digits only, at least one.
* `readNatural?`: an optional plus sign, then digits, up to a bound.
* `readInteger?`: an optional sign, then digits, between two bounds.
* `integerText`, `paddedText`: the decimal form of a number.
-/

namespace CloudOps

namespace Text

/-- An ASCII digit. -/
def isDigit (c : Char) : Bool := decide ('0' ≤ c) && decide (c ≤ '9')

/-- The value of a digit. -/
def digitValue (c : Char) : Nat := c.toNat - '0'.toNat

/-- The value of a digit in base sixteen. -/
def hexValue? (c : Char) : Option Nat :=
  if isDigit c then some (c.toNat - '0'.toNat)
  else if 'a' ≤ c ∧ c ≤ 'f' then some (c.toNat - 'a'.toNat + 10)
  else if 'A' ≤ c ∧ c ≤ 'F' then some (c.toNat - 'A'.toNat + 10)
  else none

/-- The number that a list of digits stands for, most significant first. -/
def digitsValue (digits : List Char) : Nat :=
  digits.foldl (fun n c => n * 10 + digitValue c) 0

/-- The number that a text of digits stands for, if it is one. -/
def readNat? (text : List Char) : Option Nat :=
  if text.isEmpty || !text.all isDigit then none else some (digitsValue text)

/-- A number written with an optional plus sign, not above `bound`. -/
def readNatural? (bound : Nat) (text : String) : Option Nat := do
  let digits := match text.toList with
    | '+' :: rest => rest
    | all => all
  let n ← readNat? digits
  if n ≤ bound then some n else none

/-- A number written with an optional sign, from `least` to `greatest`. -/
def readInteger? (least greatest : Int) (text : String) : Option Int := do
  let n ← match text.toList with
    | '+' :: rest => (readNat? rest).map Int.ofNat
    | '-' :: rest => (readNat? rest).map fun n => -(n : Int)
    | all => (readNat? all).map Int.ofNat
  if least ≤ n ∧ n ≤ greatest then some n else none

/-- The decimal form of a whole number. -/
def integerText (n : Int) : String :=
  if n < 0 then "-" ++ n.natAbs.repr else n.natAbs.repr

/-- The decimal form of a natural number, with zeros in front up to a width. -/
def paddedText (width n : Nat) : String :=
  let digits := Nat.toDigits 10 n
  String.ofList (List.replicate (width - digits.length) '0' ++ digits)

end Text

end CloudOps
