import CloudOps.Number.Binary64
import Mathlib.Algebra.Order.Field.Power
import Mathlib.Data.Int.Log
import Mathlib.Data.Rat.Floor
import Mathlib.Tactic.Positivity
import Mathlib.Tactic.Ring

/-!
# Rounding to floating point values

* `Binary64.ratioLog2_eq_log`: the power of two below a quotient is the logarithm of the quotient.
* `Binary64.magnitudeOfRatio_mul_left`: only the quotient matters, not how it is written.
* `Binary64.magnitudeOfRatio_of_large`, `Binary64.magnitudeOfRatio_of_tiny`: what is too large
  becomes infinite, what is too small becomes zero.
* `Binary64.magnitudeOfRatio_ratio`: a finite value is rounded to itself.
-/

namespace CloudOps

namespace Binary64

/-! ## Powers of two -/

/-- A power of two as whole numbers above and below the line. -/
theorem two_pow_toNat (k : Int) : (2 : ℚ) ^ k.toNat = 2 ^ k * 2 ^ (-k).toNat := by
  rw [← zpow_natCast, ← zpow_natCast, ← zpow_add₀ (by norm_num)]
  congr 1
  omega

variable {n d : Nat}

theorem ratio_pos (hn : 0 < n) (hd : 0 < d) : (0 : ℚ) < n / d := by
  have : (0 : ℚ) < n := by exact_mod_cast hn
  have : (0 : ℚ) < d := by exact_mod_cast hd
  positivity

/-- The comparison of whole numbers behind the comparison of a quotient with a power of two. -/
theorem zpow_le_ratio_iff (positive : 0 < d) (k : Int) :
    (2 : ℚ) ^ k ≤ n / d ↔ d * 2 ^ k.toNat ≤ n * 2 ^ (-k).toNat := by
  have hd : (0 : ℚ) < d := by exact_mod_cast positive
  have scale : (0 : ℚ) < 2 ^ (-k).toNat := by positivity
  rw [le_div_iff₀ hd, ← mul_le_mul_iff_left₀ scale, mul_right_comm, ← two_pow_toNat,
    mul_comm _ (d : ℚ)]
  exact_mod_cast Iff.rfl

theorem log_eq {r : ℚ} (hr : 0 < r) {k : Int} (low : (2 : ℚ) ^ k ≤ r) (high : r < 2 ^ (k + 1)) :
    Int.log 2 r = k := by
  have below : k ≤ Int.log 2 r := (Int.zpow_le_iff_le_log Nat.one_lt_two hr).1 (by simpa using low)
  have above : Int.log 2 r < k + 1 :=
    (Int.lt_zpow_iff_log_lt Nat.one_lt_two hr).1 (by simpa using high)
  omega

/-- A quotient lies within a factor of two of the quotient of the powers below both numbers. -/
theorem ratio_bounds (hn : 0 < n) (hd : 0 < d) :
    (2 : ℚ) ^ ((n.log2 : Int) - d.log2 - 1) ≤ n / d ∧
      (n : ℚ) / d < 2 ^ ((n.log2 : Int) - d.log2 + 1) := by
  have hd' : (0 : ℚ) < d := by exact_mod_cast hd
  have n_low : (2 : ℚ) ^ (n.log2 : Int) ≤ n := by
    rw [zpow_natCast]
    exact_mod_cast Nat.log2_self_le hn.ne'
  have n_high : (n : ℚ) < 2 ^ ((n.log2 : Int) + 1) := by
    exact_mod_cast Nat.lt_log2_self
  have d_low : (2 : ℚ) ^ (d.log2 : Int) ≤ d := by
    rw [zpow_natCast]
    exact_mod_cast Nat.log2_self_le hd.ne'
  have d_high : (d : ℚ) < 2 ^ ((d.log2 : Int) + 1) := by
    exact_mod_cast Nat.lt_log2_self
  rw [le_div_iff₀ hd', div_lt_iff₀ hd']
  constructor
  · calc (2 : ℚ) ^ ((n.log2 : Int) - d.log2 - 1) * d
        ≤ 2 ^ ((n.log2 : Int) - d.log2 - 1) * 2 ^ ((d.log2 : Int) + 1) := by gcongr
      _ = 2 ^ (n.log2 : Int) := by rw [← zpow_add₀ (by norm_num)]; congr 1; omega
      _ ≤ n := n_low
  · calc (n : ℚ) < 2 ^ ((n.log2 : Int) + 1) := n_high
      _ = 2 ^ ((n.log2 : Int) - d.log2 + 1) * 2 ^ (d.log2 : Int) := by
        rw [← zpow_add₀ (by norm_num)]; congr 1; omega
      _ ≤ 2 ^ ((n.log2 : Int) - d.log2 + 1) * d := by gcongr

/-- The power of two below a quotient. -/
theorem ratioLog2_eq_log (hn : 0 < n) (hd : 0 < d) : ratioLog2 n d = Int.log 2 ((n : ℚ) / d) := by
  have positive := ratio_pos hn hd
  obtain ⟨low, high⟩ := ratio_bounds hn hd
  simp only [ratioLog2, Nat.pow_eq, ← zpow_le_ratio_iff hd]
  generalize (n.log2 : Int) - d.log2 = k at low high ⊢
  split
  case isTrue reached => exact (log_eq positive reached high).symm
  case isFalse missed =>
    refine (log_eq positive low ?_).symm
    rw [Int.sub_add_cancel]
    exact not_le.1 missed

/-- A power of two that is not above a quotient, in whole numbers. -/
theorem le_ratioLog2_iff (hn : 0 < n) (hd : 0 < d) (k : Int) :
    k ≤ ratioLog2 n d ↔ d * 2 ^ k.toNat ≤ n * 2 ^ (-k).toNat := by
  rw [ratioLog2_eq_log hn hd, ← Int.zpow_le_iff_le_log Nat.one_lt_two (ratio_pos hn hd),
    ← zpow_le_ratio_iff hd]
  norm_cast

/-! ## Quotients -/

theorem roundHalfEven_mul_left {c : Nat} (hc : 0 < c) (n d : Nat) :
    roundHalfEven (c * n) (c * d) = roundHalfEven n d := by
  have scaled (a b : Nat) : 2 * (c * a) < c * b ↔ 2 * a < b := by
    rw [Nat.mul_left_comm, Nat.mul_lt_mul_left hc]
  have scaled' (a b : Nat) : c * b < 2 * (c * a) ↔ b < 2 * a := by
    rw [Nat.mul_left_comm, Nat.mul_lt_mul_left hc]
  simp only [roundHalfEven, Nat.mul_div_mul_left _ _ hc, Nat.mul_mod_mul_left, scaled, scaled']

/-- A whole number is not rounded. -/
theorem roundHalfEven_mul {c : Nat} (hc : 0 < c) (m : Nat) : roundHalfEven (m * c) c = m := by
  simp [roundHalfEven, Nat.mul_div_cancel m hc, hc]

@[simp] theorem magnitudeOfRatio_zero (d : Nat) : magnitudeOfRatio 0 d = 0 := if_pos rfl

/-- Only the quotient matters. -/
theorem magnitudeOfRatio_mul_left {c : Nat} (hc : 0 < c) (n : Nat) (hd : 0 < d) :
    magnitudeOfRatio (c * n) (c * d) = magnitudeOfRatio n d := by
  rcases Nat.eq_zero_or_pos n with rfl | hn
  · rw [Nat.mul_zero, magnitudeOfRatio_zero, magnitudeOfRatio_zero]
  have same : ratioQuantum (c * n) (c * d) = ratioQuantum n d := by
    have : ((c * n : Nat) : ℚ) / (c * d : Nat) = n / d := by
      have : (c : ℚ) ≠ 0 := by exact_mod_cast hc.ne'
      push_cast
      exact mul_div_mul_left _ _ this
    rw [ratioQuantum, ratioLog2_eq_log (Nat.mul_pos hc hn) (Nat.mul_pos hc hd), this,
      ← ratioLog2_eq_log hn hd, ratioQuantum]
  simp only [magnitudeOfRatio, same, Nat.mul_assoc, roundHalfEven_mul_left hc, Nat.mul_eq_zero,
    hc.ne', false_or]

/-! ## Too large, too small -/

theorem le_roundHalfEven {q : Nat} (hd : 0 < d) (h : d * q ≤ n) : q ≤ roundHalfEven n d := by
  have : q ≤ n / d := (Nat.le_div_iff_mul_le hd).2 (by rwa [Nat.mul_comm])
  simp only [roundHalfEven]
  split_ifs <;> omega

theorem roundHalfEven_of_lt_half (h : 2 * n < d) : roundHalfEven n d = 0 := by
  have small : n < d := by omega
  simp only [roundHalfEven, Nat.div_eq_of_lt small, Nat.mod_eq_of_lt small, if_pos h]

/-- The magnitude nearest to a quotient whose quantum is known. -/
theorem magnitudeOfRatio_of_quantum (hn : 0 < n) {q : Int} (quantum : ratioQuantum n d = q) :
    magnitudeOfRatio n d = min infinityMagnitude ((q + 1074).toNat * 0x10000000000000
      + roundHalfEven (n * 2 ^ (-q).toNat) (d * 2 ^ q.toNat)) := by
  subst quantum
  exact if_neg hn.ne'

/-- What is too large becomes infinite. -/
theorem magnitudeOfRatio_of_large (hd : 0 < d) {k : Nat} (hk : 1024 ≤ k) (large : d * 2 ^ k ≤ n) :
    magnitudeOfRatio n d = infinityMagnitude := by
  have hn : 0 < n := Nat.lt_of_lt_of_le (Nat.mul_pos hd (Nat.two_pow_pos _)) large
  have high : k ≤ ratioLog2 n d := (le_ratioLog2_iff hn hd k).2 (by simpa using large)
  obtain ⟨e, log⟩ : ∃ e : Nat, ratioLog2 n d = (e + 52 : Nat) :=
    ⟨(ratioLog2 n d - 52).toNat, by omega⟩
  have quantum : ratioQuantum n d = e := by
    rw [ratioQuantum, log]
    omega
  have below : d * 2 ^ e * 2 ^ 52 ≤ n := by
    have := (le_ratioLog2_iff hn hd _).1 log.ge
    rwa [Int.toNat_natCast, Int.toNat_neg_natCast, Nat.pow_zero, Nat.mul_one, Nat.pow_add,
      ← Nat.mul_assoc] at this
  -- The hidden bit takes the exponent field to its end, even if nothing else is set.
  have bits : 2 ^ 52 ≤ roundHalfEven n (d * 2 ^ e) :=
    le_roundHalfEven (Nat.mul_pos hd (Nat.two_pow_pos _)) below
  rw [magnitudeOfRatio_of_quantum hn quantum, Int.toNat_natCast, Int.toNat_neg_natCast,
    Nat.pow_zero, Nat.mul_one, infinityMagnitude]
  omega

/-- What is too small becomes zero. -/
theorem magnitudeOfRatio_of_tiny {k : Nat} (hk : 1075 ≤ k) (tiny : n * 2 ^ k < d) :
    magnitudeOfRatio n d = 0 := by
  rcases Nat.eq_zero_or_pos n with rfl | hn
  · exact magnitudeOfRatio_zero d
  have hd : 0 < d := Nat.zero_lt_of_lt tiny
  have low : ¬ -(k : Int) ≤ ratioLog2 n d := by
    rw [le_ratioLog2_iff hn hd, Int.neg_neg, Int.toNat_natCast, Int.toNat_neg_natCast, Nat.pow_zero,
      Nat.mul_one]
    omega
  -- The exponent is a variable, so that no tactic computes the power.
  obtain ⟨e, least⟩ : ∃ e : Nat, e = 1074 := ⟨_, rfl⟩
  have quantum : ratioQuantum n d = -(e : Int) := by
    rw [ratioQuantum]
    omega
  have half : 2 * (n * 2 ^ e) < d := by
    calc 2 * (n * 2 ^ e) = n * 2 ^ (e + 1) := by ring
      _ ≤ n * 2 ^ k := Nat.mul_le_mul_left n (Nat.pow_le_pow_right Nat.two_pos (by omega))
      _ < d := tiny
  rw [magnitudeOfRatio_of_quantum hn quantum, Int.neg_neg, Int.toNat_natCast, Int.toNat_neg_natCast,
    Nat.pow_zero, Nat.mul_one, roundHalfEven_of_lt_half half, least]
  rfl

/-! ## Finite values -/

theorem quantum_ge (x : Binary64) : -1074 ≤ x.quantum := by
  rw [quantum]
  split <;> omega

theorem significand_lt (x : Binary64) : x.significand < 2 ^ 53 := by
  have := x.magnitude.mod_lt (y := 0x10000000000000) (by decide)
  rw [significand]
  split
  case isTrue least =>
    rw [exponentField] at least
    omega
  case isFalse => omega

/-- Above the least quantum, the hidden bit is one. -/
theorem le_significand {x : Binary64} (above : x.quantum ≠ -1074) : 2 ^ 52 ≤ x.significand := by
  rw [significand]
  rw [quantum] at above
  split_ifs at above ⊢ <;> omega

/-- Exponent field and fraction make up the magnitude. -/
theorem magnitude_eq (x : Binary64) :
    (x.quantum + 1074).toNat * 0x10000000000000 + x.significand = x.magnitude := by
  rw [quantum, significand]
  by_cases least : x.exponentField = 0
  · simp [least]
  · rw [if_neg least, if_neg least]
    rw [exponentField] at least ⊢
    omega

/-- The absolute value as significand and quantum. -/
theorem ratio_eq (x : Binary64) :
    (x.ratio.1 : ℚ) / x.ratio.2 = x.significand * 2 ^ x.quantum := by
  have : ((2 ^ (-x.quantum).toNat : Nat) : ℚ) ≠ 0 := by positivity
  rw [ratio, Nat.pow_eq, Nat.pow_eq, div_eq_iff this]
  push_cast
  rw [two_pow_toNat, mul_assoc]

theorem ratio_fst_pos {x : Binary64} (positive : 0 < x.significand) : 0 < x.ratio.1 :=
  Nat.mul_pos positive (Nat.two_pow_pos _)

theorem ratio_snd_pos (x : Binary64) : 0 < x.ratio.2 := Nat.two_pow_pos _

/-- The quantum of a value is the one that rounding takes. -/
theorem ratioQuantum_ratio {x : Binary64} (positive : 0 < x.significand) :
    ratioQuantum x.ratio.1 x.ratio.2 = x.quantum := by
  have numerator := ratio_fst_pos positive
  have scale : (0 : ℚ) < 2 ^ x.quantum := by positivity
  have low : (2 : ℚ) ^ x.significand.log2 ≤ x.significand := by
    exact_mod_cast Nat.log2_self_le positive.ne'
  have high : (x.significand : ℚ) < 2 ^ (x.significand.log2 + 1) := by
    exact_mod_cast Nat.lt_log2_self
  have log : ratioLog2 x.ratio.1 x.ratio.2 = x.significand.log2 + x.quantum := by
    rw [ratioLog2_eq_log numerator x.ratio_snd_pos]
    refine log_eq (ratio_pos numerator x.ratio_snd_pos) ?_ ?_
    · rw [ratio_eq, zpow_add₀ two_ne_zero, zpow_natCast]
      gcongr
    · rw [ratio_eq, add_right_comm, zpow_add₀ two_ne_zero]
      gcongr
      exact_mod_cast high
  have bits : x.significand.log2 < 53 := (Nat.log2_lt positive.ne').2 x.significand_lt
  have least := x.quantum_ge
  rw [ratioQuantum, log]
  by_cases subnormal : x.quantum = -1074
  · omega
  · have : 52 ≤ x.significand.log2 := (Nat.le_log2 positive.ne').2 (le_significand subnormal)
    omega

/-- A finite value is rounded to itself. -/
theorem magnitudeOfRatio_ratio {x : Binary64} (finite : x.magnitude < infinityMagnitude) :
    magnitudeOfRatio x.ratio.1 x.ratio.2 = x.magnitude := by
  have fields := x.magnitude_eq
  rcases Nat.eq_zero_or_pos x.significand with zero | positive
  · have least : x.quantum = -1074 := by
      by_contra above
      have := le_significand above
      omega
    have numerator : x.ratio.1 = 0 := by rw [ratio, zero, Nat.zero_mul]
    rw [numerator, magnitudeOfRatio_zero, ← fields, zero, least]
    rfl
  · have back : roundHalfEven (x.ratio.1 * 2 ^ (-x.quantum).toNat)
        (x.ratio.2 * 2 ^ x.quantum.toNat) = x.significand := by
      rw [ratio, Nat.pow_eq, Nat.pow_eq, Nat.mul_assoc, Nat.mul_comm (2 ^ (-x.quantum).toNat)]
      exact roundHalfEven_mul (Nat.mul_pos (Nat.two_pow_pos _) (Nat.two_pow_pos _)) _
    rw [magnitudeOfRatio_of_quantum (ratio_fst_pos positive) (ratioQuantum_ratio positive), back,
      fields]
    exact Nat.min_eq_right finite.le

end Binary64

end CloudOps
