import CloudOps.Text.Numeral
import CloudOps.Text.Parts

/-!
# Letters of any script in ASCII

The encoding of labels in domain names (Punycode): the ASCII letters of a label, a hyphen, and
digits in base 36 that say which other letters go where. Each number tells how many places further
the next insertion is, counted through all places for one code point, then for the next.

* `readDelta`: one number. Its digits come lowest first and have thresholds that say which is the
  last one.
* `insertions?`: the insertions that digits ask for.
* `decode?`: the label that an encoded one stands for.
-/

namespace CloudOps

namespace Punycode

/-- The number of digits. -/
def base : Nat := 36

/-- Numbers above this are not reckoned with. -/
def greatest : Nat := 0xFFFFFFFF

/-- The value of a digit: letters of either case, then the ten ASCII digits. -/
def digitValue? (c : Char) : Option Nat :=
  if c.isAlpha then some (c.toLower.toNat - 'a'.toNat)
  else if Text.isDigit c then some (26 + Text.digitValue c)
  else none

/-- The threshold of the digit of weight index `k`: a digit below it is the last one. -/
def threshold (bias k : Nat) : Nat :=
  if k ≤ bias then 1 else if bias + 26 ≤ k then 26 else k - bias

/-- A number divided until it is small, and `base` more for each time. -/
def scaled (delta k : Nat) : Nat × Nat :=
  if 455 < delta then scaled (delta / 35) (k + base) else (delta, k)
termination_by delta
decreasing_by exact Nat.div_lt_self (by omega) (by omega)

/-- The bias of the next number, from the last one. The first insertion is damped, since it has to
reach the first code point. -/
def bias (delta count : Nat) (isFirst : Bool) : Nat :=
  let damped := if isFirst then delta / 700 else delta / 2
  let (small, k) := scaled (damped + damped / count) 0
  k + 36 * small / (small + 38)

/-- One number, added to `sum`, and what follows its digits. -/
def readDelta (bias : Nat) : (k weight sum : Nat) → List Char → Option (Nat × List Char)
  | _, _, _, [] => none
  | k, weight, sum, c :: rest =>
    match digitValue? c with
    | none => none
    | some digit =>
      let sum := sum + digit * weight
      let heavier := weight * (base - threshold bias k)
      if greatest < sum then none
      else if digit < threshold bias k then some (sum, rest)
      else if greatest < heavier then none
      else readDelta bias (k + base) heavier sum rest

/-- A number has at least one digit. -/
theorem readDelta_length {bias k weight sum : Nat} {digits : List Char} {read : Nat × List Char}
    (h : readDelta bias k weight sum digits = some read) : read.2.length < digits.length := by
  fun_induction readDelta bias k weight sum digits with
  | case1 | case2 | case3 | case5 => simp at h
  | case4 => cases h; simp
  | case6 k weight sum c rest digit found total heavier small more light ih =>
    exact Nat.lt_succ_of_lt (ih h)

/-- The insertions that digits ask for, made into `letters`. The next one is looked for from code
point `code` on and from place `place` on. -/
def insertions? (bias code place : Nat) (letters digits : List Char) : Option (List Char) :=
  match digits with
  | [] => some letters
  | c :: rest =>
    match _read : readDelta bias base 1 place (c :: rest) with
    | none => none
    | some (sum, behind) =>
      let count := letters.length + 1
      let next := code + sum / count
      if next.isValidChar then
        insertions? (Punycode.bias (sum - place) count (place == 0)) next (sum % count + 1)
          (letters.insertIdx (sum % count) (Char.ofNat next)) behind
      else none
termination_by digits.length
decreasing_by exact readDelta_length _read

/-- The label that an encoded one stands for. The last hyphen stands behind the ASCII letters, and
is missing where there are none. -/
def decode? (label : List Char) : Option (List Char) :=
  match Text.cutAtLast '-' label with
  | none => insertions? 72 0x80 0 [] label
  | some ([], _) => none
  | some (letters, digits) => insertions? 72 0x80 0 letters digits

end Punycode

end CloudOps
