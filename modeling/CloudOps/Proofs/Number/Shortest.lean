import CloudOps.Number.Shortest
import CloudOps.Proofs.Number.Decimal

/-!
# The shortest text of a floating point value is read back

* `Binary64.readsBack_shortest`: the decimal of fewest digits is nearest to the value, whichever
  way it is found.
* `Binary64.Written`: the forms of a decimal without a power of ten; `Binary64.Written.reads`: what
  they stand for.
* `Binary64.ofText?_toText`: every value but a NaN is read back, bit by bit.
-/

namespace CloudOps

namespace Binary64

/-! ## Decimals that read back -/

variable {x : Binary64}

theorem readsBack_iff {decimal : Decimal} :
    readsBack x decimal = true ↔
      (ofDecimal false decimal.digits decimal.exponent).magnitude = x.magnitude :=
  beq_iff_eq

theorem readsBack_of_decimalOn {count : Nat} {decimal : Decimal}
    (found : decimalOn x count = some decimal) : readsBack x decimal = true := by
  simp only [decimalOn] at found
  split at found
  case h_1 lower upper =>
    split at found <;> cases found
    · exact lower
    · exact upper
  case h_2 lower _ => cases found; exact lower
  case h_3 _ upper => cases found; exact upper
  case h_4 => cases found

/-- The exact decimal of a value reads back. -/
theorem readsBack_exactDecimal (finite : x.magnitude < infinityMagnitude) :
    readsBack x x.exactDecimal = true := by
  have denominator : 10 ^ (-x.quantum).toNat = 5 ^ (-x.quantum).toNat * x.ratio.2 :=
    Nat.mul_pow 5 2 _
  rw [readsBack_iff, ← magnitudeOfRatio_ratio finite, exactDecimal, ofDecimal_eq_ofRatio]
  simp only [Int.neg_neg, Int.toNat_natCast, Int.toNat_neg_natCast, Nat.pow_eq, Nat.pow_zero,
    Nat.mul_one, denominator, Nat.mul_comm x.ratio.1]
  exact magnitudeOfRatio_mul_left (Nat.pow_pos (by decide)) _ x.ratio_snd_pos

theorem readsBack_shortestFrom (finite : x.magnitude < infinityMagnitude) (tries count : Nat) :
    readsBack x (shortestFrom x tries count) = true := by
  induction tries generalizing count with
  | zero => exact readsBack_exactDecimal finite
  | succ tries ih =>
    rw [shortestFrom]
    cases found : decimalOn x count with
    | none => exact ih (count + 1)
    | some decimal => exact readsBack_of_decimalOn found

/-- Dropping zeros at the end does not change the value. -/
theorem ofDecimal_trimmed (negative : Bool) (count : Nat) (decimal : Decimal) :
    ofDecimal negative (decimal.trimmed count).digits (decimal.trimmed count).exponent =
      ofDecimal negative decimal.digits decimal.exponent := by
  induction count generalizing decimal with
  | zero => rfl
  | succ count ih =>
    rw [Decimal.trimmed]
    split
    case isTrue zero =>
      have digits : decimal.digits / 10 * 10 ^ 1 = decimal.digits := by omega
      have shifted := ofDecimal_mul_pow negative (decimal.digits / 10) 1 decimal.exponent
      rw [digits] at shifted
      exact (ih _).trans shifted.symm
    case isFalse => rfl

theorem readsBack_shortest (finite : x.magnitude < infinityMagnitude) :
    readsBack x x.shortest = true := by
  rw [shortest]
  split
  case isTrue zero =>
    rw [readsBack_iff, beq_iff_eq.1 zero]
    rfl
  case isFalse =>
    rw [readsBack_iff, ofDecimal_trimmed, ← readsBack_iff]
    exact readsBack_shortestFrom finite 17 1

/-- With the sign of the value, the shortest decimal stands for the value. -/
theorem ofDecimal_shortest (finite : x.magnitude < infinityMagnitude) :
    ofDecimal x.negative x.shortest.digits x.shortest.exponent = x := by
  rw [ext_iff_fields, ofDecimal_negative, ofDecimal_magnitude]
  exact ⟨rfl, readsBack_iff.1 (readsBack_shortest finite)⟩

/-! ## Text of decimals -/

/-- The forms of a decimal without a power of ten: digits, or digits with a point. -/
inductive Written : Decimal → List Char → Prop
  | whole {digits count : Nat} {text : List Char} (solid : text ≠ [])
    (all : ∀ c ∈ text, Text.isDigit c = true)
    (value : Text.digitsValue text = digits * 10 ^ count) : Written ⟨digits, count⟩ text
  | pointed {digits places : Nat} {whole fraction : List Char} (solid : whole ≠ [])
    (all : ∀ c ∈ whole ++ fraction, Text.isDigit c = true)
    (value : Text.digitsValue (whole ++ fraction) = digits) (length : fraction.length = places) :
    Written ⟨digits, -places⟩ (whole ++ '.' :: fraction)

theorem written_positional (decimal : Decimal) : Written decimal decimal.positional := by
  obtain ⟨number, exponent⟩ := decimal
  have solid : Nat.toDigits 10 number ≠ [] := Nat.toDigits_ne_nil
  have digits : ∀ c ∈ Nat.toDigits 10 number, Text.isDigit c = true :=
    fun _ => Text.isDigit_of_mem_toDigits
  have zeros : ∀ count, ∀ c ∈ List.replicate count '0', Text.isDigit c = true :=
    fun _ _ => Text.isDigit_of_mem_zeros
  have value := Text.digitsValue_toDigits number
  simp only [Decimal.positional]
  generalize Nat.toDigits 10 number = text at solid digits value ⊢
  by_cases above : 0 ≤ exponent
  · obtain ⟨count, rfl⟩ := Int.eq_ofNat_of_zero_le above
    rw [if_pos above, Int.toNat_natCast]
    refine .whole (by simp [solid]) ?_ (by rw [Text.digitsValue_append_zeros, value])
    exact fun c h => (List.mem_append.1 h).elim (digits c) (zeros _ c)
  obtain ⟨places, rfl⟩ : ∃ places : Nat, exponent = -places := ⟨(-exponent).toNat, by omega⟩
  rw [if_neg above, Int.neg_neg, Int.toNat_natCast]
  split
  case isTrue fewer =>
    -- The point stands between the digits.
    refine .pointed ?_ (by rwa [List.take_append_drop]) (by rw [List.take_append_drop, value]) ?_
    · rw [← List.length_pos_iff, List.length_take]
      omega
    · rw [List.length_drop, Nat.sub_sub_self fewer.le]
  case isFalse more =>
    -- Zeros fill the places between the point and the digits.
    have front :
        Text.digitsValue (List.replicate (places - text.length + 1) '0' ++ text) = number :=
      (Text.digitsValue_zeros_append _ text).trans value
    refine .pointed (List.cons_ne_nil '0' []) ?_ front ?_
    · intro c h
      have h : c ∈ List.replicate (places - text.length + 1) '0' ++ text := h
      exact (List.mem_append.1 h).elim (zeros _ c) (digits c)
    · rw [List.length_append, List.length_replicate]
      omega

namespace Written

variable {decimal : Decimal} {text : List Char}

/-- A decimal begins with a digit. -/
theorem begins (written : Written decimal text) :
    ∃ c rest, text = c :: rest ∧ Text.isDigit c = true := by
  cases written with
  | whole solid all _ =>
    obtain ⟨c, rest, rfl⟩ := List.exists_cons_of_ne_nil solid
    exact ⟨c, rest, rfl, all c List.mem_cons_self⟩
  | pointed solid all _ _ =>
    obtain ⟨c, rest, rfl⟩ := List.exists_cons_of_ne_nil solid
    exact ⟨c, _, rfl, all c List.mem_cons_self⟩

/-- A decimal is read back. -/
theorem reads (written : Written decimal text) (negative : Bool) :
    ofUnsignedText? negative text = some (ofDecimal negative decimal.digits decimal.exponent) := by
  cases written with
  | whole solid all value =>
    rw [ofUnsignedText?_whole negative solid all, value, ofDecimal_mul_pow]
    simp
  | pointed solid all value length =>
    rw [ofUnsignedText?_pointed negative solid all, value, length]

end Written

/-! ## Text of values -/

/-- The sign is read with the digits behind it. -/
theorem ofText?_signText (x : Binary64) {c : Char} (digit : Text.isDigit c = true)
    (rest : List Char) :
    ofText? (String.ofList (x.signText ++ c :: rest)) = ofUnsignedText? x.negative (c :: rest) := by
  rw [signText]
  cases x.negative with
  | false => exact ofText?_of_digit digit rest
  | true => exact ofText?_of_minus digit rest

/-- Every value but a NaN is read back. -/
theorem ofText?_toText (number : x.isNaN = false) : ofText? x.toText = some x := by
  rw [toText, number, if_neg Bool.false_ne_true]
  split
  case isTrue infinite =>
    have whole : x = infinity x.negative := ext_iff_fields.2 ⟨rfl, beq_iff_eq.1 infinite⟩
    rw [whole]
    cases x.negative <;> rfl
  case isFalse infinite =>
    have finite : x.magnitude < infinityMagnitude := by
      have le : x.magnitude ≤ infinityMagnitude := by simpa [isNaN] using number
      exact lt_of_le_of_ne le fun same => infinite (beq_iff_eq.2 same)
    have written := written_positional x.shortest
    obtain ⟨c, rest, text, digit⟩ := written.begins
    rw [text, ofText?_signText x digit, ← text, written.reads, ofDecimal_shortest finite]

/-- A NaN is read back as a NaN. -/
theorem ofText?_toText_of_isNaN (nan : x.isNaN = true) :
    ofText? x.toText = some (.nan false) := by
  rw [toText, if_pos nan]
  rfl

end Binary64

end CloudOps
