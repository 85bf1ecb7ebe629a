/-!
# Binary floating point of 64 bits

A value is a sign and a magnitude: the low 63 bits of the IEEE 754 word, read as a number. Read
so, the magnitudes of the finite values are in the order of the values, from zero through the
subnormal and the normal ones up to infinity, and every larger magnitude is a NaN.

* `Binary64.ofBits`, `Binary64.toBits`: the word of a value.
* `Binary64.ratio`: the absolute value of a finite value as an exact quotient of naturals.
* `Binary64.ofRatio`: the value nearest to a quotient. A tie goes to the even significand, what is
  too large becomes infinite, what is too small becomes zero.
* `Binary64.times`, `Binary64.dividedBy`: product and quotient, rounded once.
-/

namespace CloudOps

/-- A 64-bit floating point value. -/
structure Binary64 where
  /-- The sign bit. -/
  negative : Bool
  /-- The other 63 bits. -/
  magnitude : Nat
  magnitude_lt : magnitude < 0x8000000000000000
  deriving DecidableEq

namespace Binary64

/-- The magnitude of infinity: an exponent field of ones and nothing behind it. -/
def infinityMagnitude : Nat := 0x7FF0000000000000

/-- Positive zero. -/
def zero : Binary64 := ⟨false, 0, by decide⟩

/-- Infinity of either sign. -/
def infinity (negative : Bool) : Binary64 := ⟨negative, infinityMagnitude, by decide⟩

/-- A NaN of either sign, with the top bit of its fraction set. -/
def nan (negative : Bool) : Binary64 := ⟨negative, infinityMagnitude + 0x8000000000000, by decide⟩

/-- Whether the value is no number. -/
def isNaN (x : Binary64) : Bool := decide (infinityMagnitude < x.magnitude)

/-- Whether the value is infinite. -/
def isInfinite (x : Binary64) : Bool := x.magnitude == infinityMagnitude

/-- Whether the value is zero, of either sign. -/
def isZero (x : Binary64) : Bool := x.magnitude == 0

/-- The value of a word. -/
def ofBits (bits : UInt64) : Binary64 :=
  ⟨decide (0x8000000000000000 ≤ bits.toNat), bits.toNat % 0x8000000000000000,
    Nat.mod_lt _ (by decide)⟩

/-- The word of a value. -/
def toBits (x : Binary64) : UInt64 :=
  UInt64.ofNat ((if x.negative then 0x8000000000000000 else 0) + x.magnitude)

/-- The exponent field, above the 52 bits of the fraction. It is zero for zero and the subnormal
values. -/
def exponentField (x : Binary64) : Nat := x.magnitude / 0x10000000000000

/-- The significand as a whole number, its hidden bit included. -/
def significand (x : Binary64) : Nat :=
  if x.exponentField = 0 then x.magnitude
  else x.magnitude % 0x10000000000000 + 0x10000000000000

/-- The power of two that one unit of the significand is worth. -/
def quantum (x : Binary64) : Int :=
  if x.exponentField = 0 then -1074 else (x.exponentField : Int) - 1075

/-- The absolute value of a finite value as numerator and denominator. -/
def ratio (x : Binary64) : Nat × Nat :=
  (x.significand * Nat.pow 2 x.quantum.toNat, Nat.pow 2 (-x.quantum).toNat)

/-! ## Rounding -/

/-- The whole number nearest to a quotient, the even one of two equally near. -/
def roundHalfEven (n d : Nat) : Nat :=
  let q := n / d
  let twice := 2 * (n % d)
  if twice < d then q else if d < twice then q + 1 else q + q % 2

/-- The greatest power of two that is not above a quotient of positive numbers. -/
def ratioLog2 (n d : Nat) : Int :=
  let k : Int := (n.log2 : Int) - d.log2
  if d * Nat.pow 2 k.toNat ≤ n * Nat.pow 2 (-k).toNat then k else k - 1

/-- The quantum of the values around a quotient: 53 bits of it are kept, fewer where the
quotient is so small that the values end. -/
def ratioQuantum (n d : Nat) : Int := max (ratioLog2 n d - 52) (-1074)

/-- The magnitude nearest to a quotient. A significand that rounds up to the next power of two
moves the exponent field by itself. -/
def magnitudeOfRatio (n d : Nat) : Nat :=
  if n = 0 then 0 else
    let q := ratioQuantum n d
    let m := roundHalfEven (n * Nat.pow 2 (-q).toNat) (d * Nat.pow 2 q.toNat)
    min infinityMagnitude ((q + 1074).toNat * 0x10000000000000 + m)

theorem magnitudeOfRatio_le (n d : Nat) : magnitudeOfRatio n d ≤ infinityMagnitude := by
  unfold magnitudeOfRatio
  split
  · exact Nat.zero_le _
  · exact Nat.min_le_left _ _

/-- The value nearest to a quotient, with the sign given. -/
def ofRatio (negative : Bool) (n d : Nat) : Binary64 :=
  ⟨negative, magnitudeOfRatio n d,
    Nat.lt_of_le_of_lt (magnitudeOfRatio_le n d) (by decide)⟩

/-- The value nearest to a natural number. -/
def ofNat (n : Nat) : Binary64 := ofRatio false n 1

/-- The same value with the other sign. -/
def neg (x : Binary64) : Binary64 := { x with negative := !x.negative }

/-- The product of finite values, rounded once. -/
def times (x y : Binary64) : Binary64 :=
  ofRatio (x.negative != y.negative) (x.ratio.1 * y.ratio.1) (x.ratio.2 * y.ratio.2)

/-- The quotient of a finite value by one that is not zero, rounded once. -/
def dividedBy (x y : Binary64) : Binary64 :=
  ofRatio (x.negative != y.negative) (x.ratio.1 * y.ratio.2) (x.ratio.2 * y.ratio.1)

/-! ## Words and values -/

/-- A value is determined by its sign and its magnitude. -/
theorem ext_iff_fields {x y : Binary64} :
    x = y ↔ x.negative = y.negative ∧ x.magnitude = y.magnitude := by
  cases x; cases y; simp

/-- A word is the word of its value. -/
theorem toBits_ofBits (bits : UInt64) : toBits (ofBits bits) = bits := by
  apply UInt64.toNat.inj
  have bound := bits.toNat_lt
  simp only [toBits, ofBits, decide_eq_true_eq, UInt64.toNat_ofNat']
  split <;> omega

/-- A value is the value of its word. -/
theorem ofBits_toBits (x : Binary64) : ofBits (toBits x) = x := by
  have bound := x.magnitude_lt
  rw [ext_iff_fields]
  cases sign : x.negative
  · simp only [toBits, ofBits, sign, UInt64.toNat_ofNat']
    constructor
    · simp; omega
    · simp; omega
  · simp only [toBits, ofBits, sign, UInt64.toNat_ofNat']
    constructor
    · simp; omega
    · simp; omega

@[simp] theorem ofRatio_negative (negative : Bool) (n d : Nat) :
    (ofRatio negative n d).negative = negative := rfl

@[simp] theorem neg_neg (x : Binary64) : x.neg.neg = x := by
  cases x; simp [neg]

end Binary64

end CloudOps
