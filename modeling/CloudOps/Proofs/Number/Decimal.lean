import CloudOps.Number.Decimal
import CloudOps.Proofs.Number.Rounding
import CloudOps.Proofs.Text.Numeral
import Mathlib.Data.List.TakeWhile

/-!
# Decimals as floating point values

* `Binary64.ofDecimal_eq_ofRatio`: the shortcuts for exponents far outside the range give what
  rounding gives.
* `Binary64.ofDecimal_mul_pow`: zeros at the end of the digits count in the exponent.
* `Binary64.ofUnsignedText?_whole`, `Binary64.ofUnsignedText?_pointed`: what digits stand for, and
  digits with a point between them.
* `Binary64.ofText?_of_digit`, `Binary64.ofText?_of_minus`: texts that begin with a digit, or with
  a minus sign and a digit.
-/

namespace CloudOps

namespace Binary64

/-! ## Exponents -/

theorem ofRatio_congr {negative : Bool} {n d n' d' : Nat}
    (same : magnitudeOfRatio n d = magnitudeOfRatio n' d') :
    ofRatio negative n d = ofRatio negative n' d' :=
  ext_iff_fields.2 ⟨rfl, same⟩

/-- Ten is more than three doublings. -/
theorem two_pow_le_ten_pow (k : Nat) : 2 ^ (3 * k) ≤ 10 ^ k := by
  rw [Nat.pow_mul]
  exact Nat.pow_le_pow_left (by decide) k

/-- The shortcuts decide nothing. -/
theorem ofDecimal_eq_ofRatio (negative : Bool) (digits : Nat) (exponent : Int) :
    ofDecimal negative digits exponent =
      ofRatio negative (digits * 10 ^ exponent.toNat) (10 ^ (-exponent).toNat) := by
  rw [ofDecimal]
  split_ifs with zero large tiny
  case pos => exact ofRatio_congr (by simp [zero])
  case pos =>
    have whole : (-exponent).toNat = 0 := by omega
    have wide : 1 * 2 ^ (3 * exponent.toNat) ≤ digits * 10 ^ exponent.toNat :=
      Nat.mul_le_mul (Nat.pos_of_ne_zero zero) (two_pow_le_ten_pow _)
    rw [whole, Nat.pow_zero]
    exact ext_iff_fields.2 ⟨rfl, (magnitudeOfRatio_of_large Nat.one_pos (by omega) wide).symm⟩
  case pos =>
    have least : exponent.toNat = 0 := by omega
    obtain ⟨k, powers⟩ : ∃ k, digits.log2 + 1 + k = 3 * (-exponent).toNat :=
      ⟨3 * (-exponent).toNat - (digits.log2 + 1), by omega⟩
    have narrow : digits * 2 ^ k < 10 ^ (-exponent).toNat := by
      calc digits * 2 ^ k < 2 ^ (digits.log2 + 1) * 2 ^ k :=
          Nat.mul_lt_mul_of_pos_right Nat.lt_log2_self (Nat.two_pow_pos _)
        _ = 2 ^ (3 * (-exponent).toNat) := by rw [← Nat.pow_add, powers]
        _ ≤ 10 ^ (-exponent).toNat := two_pow_le_ten_pow _
    rw [least, Nat.pow_zero, Nat.mul_one]
    refine ofRatio_congr ?_
    rw [magnitudeOfRatio_zero, magnitudeOfRatio_of_tiny (by omega) narrow]
  case neg => rfl

theorem ofDecimal_negative (negative : Bool) (digits : Nat) (exponent : Int) :
    (ofDecimal negative digits exponent).negative = negative := by
  rw [ofDecimal_eq_ofRatio, ofRatio_negative]

/-- The sign does not touch the magnitude. -/
theorem ofDecimal_magnitude (negative : Bool) (digits : Nat) (exponent : Int) :
    (ofDecimal negative digits exponent).magnitude =
      (ofDecimal false digits exponent).magnitude := by
  rw [ofDecimal_eq_ofRatio, ofDecimal_eq_ofRatio]
  rfl

/-- Zeros at the end of the digits count in the exponent. -/
theorem ofDecimal_mul_pow (negative : Bool) (digits count : Nat) (exponent : Int) :
    ofDecimal negative (digits * 10 ^ count) exponent =
      ofDecimal negative digits (exponent + count) := by
  rw [ofDecimal_eq_ofRatio, ofDecimal_eq_ofRatio]
  -- On the side where the exponents are below zero, both numbers have this power in common.
  obtain ⟨common, numerators, denominators⟩ : ∃ common,
      count + exponent.toNat = common + (exponent + count).toNat ∧
        (-exponent).toNat = common + (-(exponent + count)).toNat :=
    ⟨(-exponent).toNat - (-(exponent + count)).toNat, by omega, by omega⟩
  have numerator : digits * 10 ^ count * 10 ^ exponent.toNat =
      10 ^ common * (digits * 10 ^ (exponent + count).toNat) := by
    rw [Nat.mul_assoc, ← Nat.pow_add, numerators, Nat.pow_add, Nat.mul_left_comm]
  rw [numerator, denominators, Nat.pow_add]
  exact ofRatio_congr (magnitudeOfRatio_mul_left (Nat.pow_pos (by decide)) _
    (Nat.pow_pos (by decide)))

/-! ## Digits -/

theorem spanDigits_of_all {digits : List Char} (all : ∀ c ∈ digits, Text.isDigit c = true) :
    spanDigits digits = (digits, []) := by
  have taken : digits.takeWhile Text.isDigit = digits := List.takeWhile_eq_self_iff.2 all
  have dropped : digits.dropWhile Text.isDigit = [] := List.dropWhile_eq_nil_iff.2 all
  rw [spanDigits, taken, dropped]

/-- The point ends the digits in front of it. -/
theorem spanDigits_point {digits : List Char} (all : ∀ c ∈ digits, Text.isDigit c = true)
    (rest : List Char) : spanDigits (digits ++ '.' :: rest) = (digits, '.' :: rest) := by
  have point : Text.isDigit '.' = false := rfl
  rw [spanDigits, List.takeWhile_append_of_pos all, List.dropWhile_append_of_pos all]
  simp [point]

/-- Digits alone. -/
theorem ofUnsignedText?_whole (negative : Bool) {digits : List Char} (solid : digits ≠ [])
    (all : ∀ c ∈ digits, Text.isDigit c = true) :
    ofUnsignedText? negative digits = some (ofDecimal negative (Text.digitsValue digits) 0) := by
  simp [ofUnsignedText?, spanDigits_of_all all, fractionOfText, exponentOfText?, solid]

/-- Digits with a point. -/
theorem ofUnsignedText?_pointed (negative : Bool) {whole fraction : List Char}
    (solid : whole ≠ []) (all : ∀ c ∈ whole ++ fraction, Text.isDigit c = true) :
    ofUnsignedText? negative (whole ++ '.' :: fraction) =
      some (ofDecimal negative (Text.digitsValue (whole ++ fraction)) (-fraction.length)) := by
  have left : spanDigits (whole ++ '.' :: fraction) = (whole, '.' :: fraction) :=
    spanDigits_point (fun c digit => all c (List.mem_append_left _ digit)) fraction
  have right : spanDigits fraction = (fraction, []) :=
    spanDigits_of_all fun c digit => all c (List.mem_append_right _ digit)
  simp [ofUnsignedText?, left, right, fractionOfText, exponentOfText?, solid]

/-! ## Signs and names -/

/-- A text that begins with a digit is none of the names. -/
theorem ofMagnitudeText?_of_digit (negative : Bool) {c : Char} (digit : Text.isDigit c = true)
    (rest : List Char) :
    ofMagnitudeText? negative (c :: rest) = ofUnsignedText? negative (c :: rest) := by
  have same : c.toLower = c := Text.toLower_of_isDigit digit
  have i : c ≠ 'i' := by rintro rfl; exact absurd digit (by decide)
  have n : c ≠ 'n' := by rintro rfl; exact absurd digit (by decide)
  simp [ofMagnitudeText?, same, i, n]

/-- A text that begins with a digit. -/
theorem ofText?_of_digit {c : Char} (digit : Text.isDigit c = true) (rest : List Char) :
    ofText? (String.ofList (c :: rest)) = ofUnsignedText? false (c :: rest) := by
  rw [ofText?, String.toList_ofList]
  split
  case h_1 h => exact absurd (List.cons.inj h).1 (Text.ne_sign_of_isDigit digit).1
  case h_2 h => exact absurd (List.cons.inj h).1 (Text.ne_sign_of_isDigit digit).2
  case h_3 => exact ofMagnitudeText?_of_digit false digit rest

/-- A minus sign in front of it. -/
theorem ofText?_of_minus {c : Char} (digit : Text.isDigit c = true) (rest : List Char) :
    ofText? (String.ofList ('-' :: c :: rest)) = ofUnsignedText? true (c :: rest) := by
  rw [ofText?, String.toList_ofList]
  exact ofMagnitudeText?_of_digit true digit rest

end Binary64

end CloudOps
