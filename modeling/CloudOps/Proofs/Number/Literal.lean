import CloudOps.Proofs.Number.Decimal
import CloudOps.Proofs.Text.Literal

/-!
# What a floating point number looks like

* `Binary64.FractionPart`, `Binary64.ExponentPart`, `Binary64.DecimalLiteral`: the parts of an
  unsigned decimal, and the decimal with the digits and the power of ten that it stands for.
* `Binary64.MagnitudeLiteral`: a decimal, or one of the names.
* `Binary64.Literal`: a sign and a magnitude.
* `Binary64.ofText?_eq_some_iff`: the reader takes exactly these texts. Every part of it is shown
  complete and sound for its part of the form.
-/

namespace CloudOps

namespace Binary64

open Text (Sign Unsigned signed)

/-! ## The form -/

/-- The text is a point and digits behind it, or nothing. -/
inductive FractionPart : List Char → List Char → Prop
  | absent : FractionPart [] []
  | behind {digits : List Char} (all : ∀ c ∈ digits, Text.isDigit c = true) :
      FractionPart ('.' :: digits) digits

/-- The text is a letter and a power of ten, or nothing. -/
inductive ExponentPart : List Char → Int → Prop
  | absent : ExponentPart [] 0
  | marked {mark : Char} {text : List Char} {power : Int} (letter : mark = 'e' ∨ mark = 'E')
      (literal : Text.IntegerLiteral text power) : ExponentPart (mark :: text) power

/-- The text is an unsigned decimal with digits on at least one side of its point, and stands for
`digits · 10 ^ exponent`. -/
inductive DecimalLiteral : List Char → Nat → Int → Prop
  | parts {whole point fraction tail : List Char} {power : Int}
      (left : ∀ c ∈ whole, Text.isDigit c = true) (right : FractionPart point fraction)
      (raised : ExponentPart tail power) (solid : whole ≠ [] ∨ fraction ≠ []) :
      DecimalLiteral (whole ++ (point ++ tail)) (Text.digitsValue (whole ++ fraction))
        (power - fraction.length)

/-- The names of the infinite values, in lower case. -/
def infinityNames : List (List Char) := ["inf".toList, "infinity".toList]

/-- The text is a number without its sign. Names are in any case. -/
inductive MagnitudeLiteral (negative : Bool) : List Char → Binary64 → Prop
  | infinity {text : List Char} (name : text.map Char.toLower ∈ infinityNames) :
      MagnitudeLiteral negative text (infinity negative)
  | nan {text : List Char} (name : text.map Char.toLower = "nan".toList) :
      MagnitudeLiteral negative text (nan negative)
  | decimal {text : List Char} {digits : Nat} {exponent : Int}
      (form : DecimalLiteral text digits exponent) :
      MagnitudeLiteral negative text (ofDecimal negative digits exponent)

/-- The text is a number, and stands for the value. -/
def Literal (text : List Char) (value : Binary64) : Prop :=
  ∃ sign body, text = Sign.chars sign ++ body ∧ MagnitudeLiteral sign.negative body value

/-! ## Digits and what follows them -/

/-- Nothing follows, or something that is no digit. -/
def Stops (rest : List Char) : Prop := ∀ c more, rest = c :: more → Text.isDigit c = false

/-- The leading digits are all that stand in front of the first other character. -/
theorem spanDigits_complete {digits rest : List Char} (all : ∀ c ∈ digits, Text.isDigit c = true)
    (stops : Stops rest) : spanDigits (digits ++ rest) = (digits, rest) := by
  rw [spanDigits, List.takeWhile_append_of_pos all, List.dropWhile_append_of_pos all]
  cases rest with
  | nil => simp
  | cons c more => simp [stops c more rfl]

theorem spanDigits_sound (text : List Char) : ∀ c ∈ (spanDigits text).1, Text.isDigit c = true :=
  fun _ member => List.mem_takeWhile_imp member

theorem ExponentPart.stops {tail : List Char} {power : Int} (raised : ExponentPart tail power) :
    Stops tail := by
  rintro c more rfl
  cases raised with
  | marked letter => rcases letter with rfl | rfl <;> rfl

theorem FractionPart.stops {point fraction tail : List Char} (right : FractionPart point fraction)
    (stops : Stops tail) : Stops (point ++ tail) := by
  cases right with
  | absent => exact stops
  | behind all =>
    rintro c more text
    cases text
    rfl

/-! ## The parts of a decimal -/

theorem fractionOfText_complete {point fraction tail : List Char} {power : Int}
    (right : FractionPart point fraction) (raised : ExponentPart tail power) :
    fractionOfText (point ++ tail) = (fraction, tail) := by
  cases right with
  | behind all => exact spanDigits_complete all raised.stops
  | absent =>
    cases raised with
    | absent => rfl
    | marked letter => rcases letter with rfl | rfl <;> rfl

theorem fractionOfText_sound (rest : List Char) :
    ∃ point, point ++ (fractionOfText rest).2 = rest ∧
      FractionPart point (fractionOfText rest).1 := by
  fun_cases fractionOfText rest
  case case1 more =>
    exact ⟨'.' :: (spanDigits more).1, congrArg ('.' :: ·) (spanDigits_append more),
      .behind (spanDigits_sound more)⟩
  case case2 => exact ⟨[], rfl, .absent⟩

/-- The reader of a power of ten takes the sign off. -/
theorem exponentOfText?_cons (mark : Char) (rest : List Char) :
    exponentOfText? (mark :: rest) =
      if mark = 'e' ∨ mark = 'E' then
        (Text.readNat? (signed rest).2).map (signed rest).1.number
      else none := by
  unfold exponentOfText?
  refine ite_congr rfl (fun _ => ?_) fun _ => rfl
  fun_cases signed rest
  case case1 => rfl
  case case2 digits =>
    cases read : Text.readNat? digits <;> simp [read, Sign.number, Sign.negative]
  case case3 notPlus notMinus =>
    split
    case h_1 digits => exact absurd rfl (notPlus digits)
    case h_2 digits => exact absurd rfl (notMinus digits)
    case h_3 => rfl

theorem exponentOfText?_eq_some_iff {tail : List Char} {power : Int} :
    exponentOfText? tail = some power ↔ ExponentPart tail power := by
  cases tail with
  | nil =>
    constructor
    · rintro ⟨⟩
      exact .absent
    · rintro ⟨⟩
      rfl
  | cons mark rest =>
    rw [exponentOfText?_cons]
    constructor
    · intro read
      split at read
      case isTrue letter => exact .marked letter (Text.integerLiteral_iff.2 read)
      case isFalse => cases read
    · rintro ⟨⟩
      case marked letter literal => rw [if_pos letter, Text.integerLiteral_iff.1 literal]

/-! ## Decimals -/

theorem ofUnsignedText?_complete (negative : Bool) {text : List Char} {digits : Nat}
    {exponent : Int} (form : DecimalLiteral text digits exponent) :
    ofUnsignedText? negative text = some (ofDecimal negative digits exponent) := by
  obtain @⟨whole, point, fraction, tail, power, left, right, raised, solid⟩ := form
  have split : spanDigits (whole ++ (point ++ tail)) = (whole, point ++ tail) :=
    spanDigits_complete left (right.stops raised.stops)
  have behind : fractionOfText (point ++ tail) = (fraction, tail) :=
    fractionOfText_complete right raised
  have read : exponentOfText? tail = some power := exponentOfText?_eq_some_iff.2 raised
  have digits : (whole.isEmpty && fraction.isEmpty) = false := by
    simpa [Bool.and_eq_false_iff, or_iff_not_imp_left] using solid
  simp only [ofUnsignedText?, split, behind, read, digits, Option.map_some, if_false,
    Bool.false_eq_true]

theorem ofUnsignedText?_sound {negative : Bool} {text : List Char} {value : Binary64}
    (read : ofUnsignedText? negative text = some value) :
    ∃ digits exponent, DecimalLiteral text digits exponent ∧
      value = ofDecimal negative digits exponent := by
  obtain ⟨point, tail, right⟩ := fractionOfText_sound (spanDigits text).2
  rw [ofUnsignedText?] at read
  split at read
  case isTrue => cases read
  case isFalse solid =>
    obtain ⟨power, raised, rfl⟩ := Option.map_eq_some_iff.1 read
    have digits : (spanDigits text).1 ≠ [] ∨
        (fractionOfText (spanDigits text).2).1 ≠ [] := by
      simpa [or_iff_not_imp_left] using solid
    have form := DecimalLiteral.parts (spanDigits_sound text) right
      (exponentOfText?_eq_some_iff.1 raised) digits
    rw [tail, spanDigits_append] at form
    exact ⟨_, _, form, rfl⟩

/-! ## Names and signs -/

/-- A decimal begins with a digit or its point. -/
theorem DecimalLiteral.begins {text : List Char} {digits : Nat} {exponent : Int}
    (form : DecimalLiteral text digits exponent) :
    ∃ c rest, text = c :: rest ∧ (Text.isDigit c = true ∨ c = '.') := by
  obtain @⟨whole, point, fraction, tail, power, left, right, raised, solid⟩ := form
  cases whole with
  | cons c rest => exact ⟨c, _, rfl, .inl (left c List.mem_cons_self)⟩
  | nil =>
    cases right with
    | absent => simp at solid
    | behind all => exact ⟨'.', _, rfl, .inr rfl⟩

/-- So it is none of the names. -/
theorem ofMagnitudeText?_complete (negative : Bool) {text : List Char} {value : Binary64}
    (form : MagnitudeLiteral negative text value) :
    ofMagnitudeText? negative text = some value := by
  cases form with
  | infinity name =>
    have either : text.map Char.toLower = ['i', 'n', 'f'] ∨
        text.map Char.toLower = ['i', 'n', 'f', 'i', 'n', 'i', 't', 'y'] := by
      simpa [infinityNames] using name
    exact if_pos either
  | nan name =>
    simp only [ofMagnitudeText?, name]
    rfl
  | decimal form =>
    obtain ⟨c, rest, rfl, digit | rfl⟩ := form.begins
    · rw [ofMagnitudeText?_of_digit negative digit, ofUnsignedText?_complete negative form]
    · exact ofUnsignedText?_complete negative form

theorem ofMagnitudeText?_sound {negative : Bool} {text : List Char} {value : Binary64}
    (read : ofMagnitudeText? negative text = some value) :
    MagnitudeLiteral negative text value := by
  simp only [ofMagnitudeText?] at read
  split at read
  case isTrue name =>
    cases read
    exact .infinity (by simpa [infinityNames] using name)
  case isFalse =>
    split at read
    case isTrue name =>
      cases read
      exact .nan name
    case isFalse =>
      obtain ⟨digits, exponent, form, rfl⟩ := ofUnsignedText?_sound read
      exact .decimal form

/-- Neither a name nor a decimal begins with a sign. -/
theorem MagnitudeLiteral.unsigned {negative : Bool} {text : List Char} {value : Binary64}
    (form : MagnitudeLiteral negative text value) : Unsigned text := by
  intro rest
  cases form with
  | infinity name =>
    constructor <;> rintro rfl <;> simp [infinityNames] at name
  | nan name => constructor <;> rintro rfl <;> simp at name
  | decimal form =>
    obtain ⟨c, more, rfl, digit | rfl⟩ := form.begins
    · exact ⟨fun h => (Text.ne_sign_of_isDigit digit).1 (List.cons.inj h).1,
        fun h => (Text.ne_sign_of_isDigit digit).2 (List.cons.inj h).1⟩
    · simp

/-- The reader takes the sign off. -/
theorem ofText?_eq (text : String) :
    ofText? text = ofMagnitudeText? (signed text.toList).1.negative (signed text.toList).2 := by
  unfold ofText?
  fun_cases signed text.toList
  case case1 => rfl
  case case2 => rfl
  case case3 notPlus notMinus =>
    split
    case h_1 rest => exact absurd rfl (notPlus rest)
    case h_2 rest => exact absurd rfl (notMinus rest)
    case h_3 => rfl

/-- **Floating point numbers.** The reader takes a sign and a name or a decimal. -/
theorem ofText?_eq_some_iff {text : String} {value : Binary64} :
    ofText? text = some value ↔ Literal text.toList value := by
  rw [ofText?_eq]
  constructor
  · intro read
    exact ⟨_, _, (Text.chars_signed_append text.toList).symm, ofMagnitudeText?_sound read⟩
  · rintro ⟨sign, body, whole, form⟩
    rw [whole, Text.signed_append form.unsigned]
    exact ofMagnitudeText?_complete _ form

end Binary64

end CloudOps
