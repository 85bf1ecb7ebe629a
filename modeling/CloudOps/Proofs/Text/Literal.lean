import CloudOps.Proofs.Text.Numeral

/-!
# What a whole number looks like

* `Sign`: a sign in front of a number, or none. `signed` takes it off a text.
* `IsDigits`: at least one digit, and nothing else.
* `IntegerLiteral`: a sign and digits, with the number that they stand for.
* `readInteger?_eq_some_iff`: the reader takes exactly these texts, within its bounds.
-/

namespace CloudOps

namespace Text

/-- A sign in front of a number. -/
inductive Sign
  | none
  | plus
  | minus

namespace Sign

/-- The sign as it is written. -/
def chars : Sign → List Char
  | none => []
  | plus => ['+']
  | minus => ['-']

/-- Whether the sign makes a number negative. -/
def negative : Sign → Bool
  | minus => true
  | _ => false

/-- A number with the sign. -/
def number (sign : Sign) (n : Nat) : Int := if sign.negative then -n else n

end Sign

/-- The text does not begin with a sign. -/
def Unsigned (text : List Char) : Prop := ∀ rest, text ≠ '+' :: rest ∧ text ≠ '-' :: rest

/-- The sign of a text and what follows it. -/
def signed : List Char → Sign × List Char
  | '+' :: rest => (.plus, rest)
  | '-' :: rest => (.minus, rest)
  | all => (.none, all)

theorem signed_of_unsigned {text : List Char} (unsigned : Unsigned text) :
    signed text = (.none, text) := by
  rw [signed]
  · exact fun rest => (unsigned rest).1
  · exact fun rest => (unsigned rest).2

/-- A sign is found in front of a text that has none. -/
theorem signed_append {body : List Char} (unsigned : Unsigned body) (sign : Sign) :
    signed (sign.chars ++ body) = (sign, body) := by
  cases sign with
  | none => exact signed_of_unsigned unsigned
  | plus => rfl
  | minus => rfl

/-- Nothing is lost when the sign is taken off. -/
theorem chars_signed_append (text : List Char) :
    (signed text).1.chars ++ (signed text).2 = text := by
  fun_cases signed text <;> rfl

/-- At least one digit, and nothing else. -/
def IsDigits (text : List Char) : Prop := text ≠ [] ∧ ∀ c ∈ text, isDigit c = true

theorem IsDigits.unsigned {digits : List Char} (all : IsDigits digits) : Unsigned digits := by
  intro rest
  constructor <;> rintro rfl <;> exact absurd (all.2 _ List.mem_cons_self) (by decide)

theorem readNat?_eq_some_iff {text : List Char} {n : Nat} :
    readNat? text = some n ↔ IsDigits text ∧ digitsValue text = n := by
  rw [readNat?]
  split
  case isTrue other =>
    refine iff_of_false (by simp) ?_
    rintro ⟨⟨solid, all⟩, -⟩
    have digits : text.all isDigit = true := List.all_eq_true.2 all
    simp [solid, digits] at other
  case isFalse fits =>
    have digits : IsDigits text := by simpa [IsDigits] using fits
    simp [digits]

/-- The text is a sign and digits, and stands for the number. -/
def IntegerLiteral (text : List Char) (n : Int) : Prop :=
  ∃ sign digits, text = Sign.chars sign ++ digits ∧ IsDigits digits ∧
    n = sign.number (digitsValue digits)

/-- A whole number is read where the sign has been taken off. -/
theorem integerLiteral_iff {text : List Char} {n : Int} :
    IntegerLiteral text n ↔ (readNat? (signed text).2).map (signed text).1.number = some n := by
  simp only [Option.map_eq_some_iff, readNat?_eq_some_iff]
  constructor
  · rintro ⟨sign, digits, rfl, all, rfl⟩
    rw [signed_append all.unsigned]
    exact ⟨_, ⟨all, rfl⟩, rfl⟩
  · rintro ⟨_, ⟨all, rfl⟩, rfl⟩
    exact ⟨_, _, (chars_signed_append text).symm, all, rfl⟩

/-- The reader of whole numbers takes the sign off. -/
theorem readInteger?_eq (least greatest : Int) (text : String) :
    readInteger? least greatest text =
      ((readNat? (signed text.toList).2).map (signed text.toList).1.number).bind
        fun n => if least ≤ n ∧ n ≤ greatest then some n else none := by
  unfold readInteger?
  fun_cases signed text.toList
  case case1 => rfl
  case case2 rest => cases read : readNat? rest <;> simp [read, Sign.number, Sign.negative]
  case case3 notPlus notMinus =>
    split
    case h_1 rest => exact absurd rfl (notPlus rest)
    case h_2 rest => exact absurd rfl (notMinus rest)
    case h_3 => rfl

/-- **Whole numbers.** The reader takes a sign and digits, if the number is within its bounds. -/
theorem readInteger?_eq_some_iff {least greatest n : Int} {text : String} :
    readInteger? least greatest text = some n ↔
      IntegerLiteral text.toList n ∧ least ≤ n ∧ n ≤ greatest := by
  rw [readInteger?_eq, Option.bind_eq_some_iff, integerLiteral_iff]
  constructor
  · rintro ⟨value, read, fits⟩
    split at fits
    case isTrue within => cases fits; exact ⟨read, within⟩
    case isFalse => cases fits
  · rintro ⟨read, within⟩
    exact ⟨n, read, if_pos within⟩

end Text

end CloudOps
