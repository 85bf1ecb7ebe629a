import CloudOps.Number.Binary64
import CloudOps.Text.Numeral

/-!
# Decimal text of floating point values

* `Binary64.ofDecimal`: the value nearest to `digits · 10 ^ exponent`. An exponent far outside the
  range of the values decides the answer without raising the power.
* `Binary64.ofText?`: the value that a text stands for: an optional sign, then `inf`, `infinity` or
  `nan` in any case, or digits with an optional point and an optional power of ten.
-/

namespace CloudOps

namespace Binary64

/-- The value nearest to `digits · 10 ^ exponent`. A positive whole number times `10 ^ 400` is
above every finite value, and one that has at most `k` bits is below the least positive one
when it is divided by more than `10 ^ (400 + k)`. -/
def ofDecimal (negative : Bool) (digits : Nat) (exponent : Int) : Binary64 :=
  if digits = 0 then ofRatio negative 0 1
  else if 400 < exponent then infinity negative
  else if exponent < -(400 + digits.log2 : Int) then ofRatio negative 0 1
  else ofRatio negative (digits * Nat.pow 10 exponent.toNat) (Nat.pow 10 (-exponent).toNat)

/-- A text split after its leading digits. -/
def spanDigits (text : List Char) : List Char × List Char :=
  (text.takeWhile Text.isDigit, text.dropWhile Text.isDigit)

/-- The power of ten at the end of a decimal: nothing, or a letter, an optional sign and digits. -/
def exponentOfText? : List Char → Option Int
  | [] => some 0
  | mark :: rest =>
    if mark = 'e' ∨ mark = 'E' then
      match rest with
      | '+' :: digits => (Text.readNat? digits).map Int.ofNat
      | '-' :: digits => (Text.readNat? digits).map fun n => -(n : Int)
      | digits => (Text.readNat? digits).map Int.ofNat
    else none

/-- The digits behind the point, and what follows them. Without a point there are none. -/
def fractionOfText : List Char → List Char × List Char
  | '.' :: rest => spanDigits rest
  | rest => ([], rest)

/-- An unsigned decimal: digits on at least one side of an optional point, then a power of ten. -/
def ofUnsignedText? (negative : Bool) (text : List Char) : Option Binary64 :=
  let whole := spanDigits text
  let fraction := fractionOfText whole.2
  if whole.1.isEmpty && fraction.1.isEmpty then none
  else (exponentOfText? fraction.2).map fun exponent =>
    ofDecimal negative (Text.digitsValue (whole.1 ++ fraction.1))
      (exponent - fraction.1.length)

/-- A number without its sign: one of the three names, or a decimal. -/
def ofMagnitudeText? (negative : Bool) (text : List Char) : Option Binary64 :=
  let name := text.map Char.toLower
  if name = ['i', 'n', 'f'] ∨ name = ['i', 'n', 'f', 'i', 'n', 'i', 't', 'y'] then
    some (infinity negative)
  else if name = ['n', 'a', 'n'] then some (nan negative)
  else ofUnsignedText? negative text

/-- The value that a text stands for. -/
def ofText? (text : String) : Option Binary64 :=
  match text.toList with
  | '+' :: rest => ofMagnitudeText? false rest
  | '-' :: rest => ofMagnitudeText? true rest
  | all => ofMagnitudeText? false all

/-- Nothing is lost when the leading digits are split off. -/
theorem spanDigits_append (text : List Char) : (spanDigits text).1 ++ (spanDigits text).2 = text :=
  List.takeWhile_append_dropWhile

end Binary64

end CloudOps
