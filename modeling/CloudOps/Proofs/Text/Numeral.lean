import CloudOps.Text.Numeral
import Mathlib.Algebra.Group.Nat.Defs

/-!
# Numerals are read back

* `Text.digitsValue_toDigits`: digits of a number stand for that number. Zeros in front of digits
  change nothing (`Text.digitsValue_zeros_append`); zeros behind them are factors of ten
  (`Text.digitsValue_append_zeros`).
* `Text.readNatural?_repr`, `Text.readInteger?_integerText`: a natural number and a whole number are
  read back, if they are within the bounds.
-/

namespace CloudOps

namespace Text

theorem digitsValue_eq (digits : List Char) :
    digitsValue digits = Nat.ofDigitChars 10 digits 0 := by
  rw [digitsValue, Nat.ofDigitChars_eq_foldl]
  refine congrArg (List.foldl · 0 digits) (funext fun n => funext fun c => ?_)
  rw [Nat.mul_comm, digitValue]

@[simp] theorem digitsValue_toDigits (n : Nat) : digitsValue (Nat.toDigits 10 n) = n := by
  rw [digitsValue_eq, Nat.ofDigitChars_ten_toDigits]

@[simp] theorem digitsValue_zeros_append (count : Nat) (digits : List Char) :
    digitsValue (List.replicate count '0' ++ digits) = digitsValue digits := by
  rw [digitsValue_eq, Nat.ofDigitChars_append, Nat.ofDigitChars_replicate_zero, Nat.mul_zero,
    digitsValue_eq]

@[simp] theorem digitsValue_append_zeros (digits : List Char) (count : Nat) :
    digitsValue (digits ++ List.replicate count '0') = digitsValue digits * 10 ^ count := by
  rw [digitsValue_eq, Nat.ofDigitChars_append, Nat.ofDigitChars_replicate_zero, Nat.mul_comm,
    digitsValue_eq]

theorem isDigit_of_mem_toDigits {n : Nat} {c : Char} (digit : c ∈ Nat.toDigits 10 n) :
    isDigit c = true :=
  Nat.isDigit_of_mem_toDigits (by decide) (by decide) digit

theorem isDigit_of_mem_zeros {count : Nat} {c : Char} (zero : c ∈ List.replicate count '0') :
    isDigit c = true := by
  rw [List.eq_of_mem_replicate zero]
  rfl

@[simp] theorem readNat?_toDigits (n : Nat) : readNat? (Nat.toDigits 10 n) = some n := by
  have solid : (Nat.toDigits 10 n).isEmpty = false := by simp [Nat.toDigits_ne_nil]
  have digits : (Nat.toDigits 10 n).all isDigit = true :=
    List.all_eq_true.2 fun c digit => isDigit_of_mem_toDigits digit
  simp [readNat?, solid, digits]

/-- A digit is no sign. -/
theorem ne_sign_of_isDigit {c : Char} (digit : isDigit c = true) : c ≠ '+' ∧ c ≠ '-' := by
  constructor <;> rintro rfl <;> exact absurd digit (by decide)

/-- A digit has no other case. -/
theorem toLower_of_isDigit {c : Char} (digit : isDigit c = true) : c.toLower = c := by
  have below : c ≤ '9' := by simpa using (Bool.and_eq_true_iff.1 digit).2
  exact dif_neg fun upper => absurd (UInt32.le_trans upper.1 below) (by decide)

/-- The first digit of a number. -/
theorem toDigits_begins (n : Nat) : ∃ c rest, Nat.toDigits 10 n = c :: rest ∧ isDigit c = true := by
  have solid : Nat.toDigits 10 n ≠ [] := Nat.toDigits_ne_nil
  obtain ⟨c, rest, digits⟩ := List.exists_cons_of_ne_nil solid
  exact ⟨c, rest, digits, isDigit_of_mem_toDigits (digits ▸ List.mem_cons_self)⟩

/-- A natural number is read back. -/
theorem readNatural?_repr {bound n : Nat} (within : n ≤ bound) :
    readNatural? bound n.repr = some n := by
  obtain ⟨c, rest, digits, digit⟩ := toDigits_begins n
  have text : n.repr.toList = c :: rest := by simp [digits]
  have read : readNat? (c :: rest) = some n := by rw [← digits, readNat?_toDigits]
  rw [readNatural?, text]
  split
  case h_1 h => exact absurd (List.cons.inj h).1 (ne_sign_of_isDigit digit).1
  case h_2 => simp [read, within]

/-- A whole number is read back. -/
theorem readInteger?_integerText {least greatest n : Int} (low : least ≤ n) (high : n ≤ greatest) :
    readInteger? least greatest (integerText n) = some n := by
  by_cases negative : n < 0
  · have text : (integerText n).toList = '-' :: Nat.toDigits 10 n.natAbs := by
      simp [integerText, negative]
    have value : -(n.natAbs : Int) = n := by omega
    simp only [readInteger?, text, readNat?_toDigits, Option.pure_def, Option.bind_eq_bind,
      Option.bind_some, Option.map_some, value, low, high, and_self, if_true]
  · have text : (integerText n).toList = Nat.toDigits 10 n.natAbs := by
      simp [integerText, negative]
    have value : (n.natAbs : Int) = n := Int.natAbs_of_nonneg (Int.not_lt.1 negative)
    -- The first digit is none of the signs that are looked for.
    obtain ⟨c, rest, digits, digit⟩ := toDigits_begins n.natAbs
    have read : readNat? (c :: rest) = some n.natAbs := by rw [← digits, readNat?_toDigits]
    rw [readInteger?, text, digits]
    split
    case h_1 h => exact absurd (List.cons.inj h).1 (ne_sign_of_isDigit digit).1
    case h_2 h => exact absurd (List.cons.inj h).1 (ne_sign_of_isDigit digit).2
    case h_3 =>
      simp only [read, Option.map_some, Int.ofNat_eq_natCast, Option.bind_eq_bind,
        Option.bind_some, value, low, high, and_self, if_true]

end Text

end CloudOps
