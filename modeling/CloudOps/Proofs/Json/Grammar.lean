import CloudOps.Json.Skip
import CloudOps.Proofs.Text.Literal

/-!
# What a JSON text looks like

The forms that texts have, whatever reads them.

* `CharForm`: the ways to write a character between quotes. `Spells`: a text between quotes stands
  for these characters. `Inside`: it has the form of one, and may stand for none, because a
  surrogate in it is alone.
* `NumberForm`: a number.
* `ValueForm`: a value, nested as deep as it likes, with blanks wherever they may stand.
* `ObjectForm`: an object with members whose keys stand for names.
-/

namespace CloudOps

namespace Json

/-- Blanks between tokens. -/
def Blanks (text : List Char) : Prop := ∀ c ∈ text, c ∈ [' ', '\n', '\t', '\r']

instance (text : List Char) : Decidable (Blanks text) :=
  List.decidableBAll (· ∈ [' ', '\n', '\t', '\r']) text

/-! ## Strings -/

/-- The character is a digit in base sixteen, in either case, with this value. -/
def HexDigit (n : Nat) (c : Char) : Prop :=
  n < 16 ∧ (c = Nat.digitChar n ∨ c = (Nat.digitChar n).toUpper)

instance (n : Nat) (c : Char) : Decidable (HexDigit n c) :=
  inferInstanceAs (Decidable (n < 16 ∧ (c = Nat.digitChar n ∨ c = (Nat.digitChar n).toUpper)))

/-- Four digits in base sixteen, and the number that they stand for. -/
inductive Quad : Nat → List Char → Prop
  | digits {i j k l : Nat} {a b c d : Char} (first : HexDigit i a) (second : HexDigit j b)
      (third : HexDigit k c) (last : HexDigit l d) :
      Quad (((i * 16 + j) * 16 + k) * 16 + l) [a, b, c, d]

/-- The number is the first half of a surrogate pair. -/
def Leading (n : Nat) : Prop := 0xD800 ≤ n ∧ n ≤ 0xDBFF

/-- The number is the second half of a surrogate pair. -/
def Trailing (n : Nat) : Prop := 0xDC00 ≤ n ∧ n ≤ 0xDFFF

/-- The letters of the short escapes, and the characters that they stand for. -/
def shortEscapes : List (Char × Char) :=
  [('"', '"'), ('\\', '\\'), ('/', '/'), ('b', '\x08'), ('f', '\x0c'), ('n', '\n'), ('r', '\r'),
    ('t', '\t')]

/-- A character that may stand between quotes as it is. -/
structure Plain (c : Char) : Prop where
  quote : c ≠ '"'
  backslash : c ≠ '\\'
  printable : 0x20 ≤ c.toNat

instance (c : Char) : Decidable (Plain c) :=
  decidable_of_iff (c ≠ '"' ∧ c ≠ '\\' ∧ 0x20 ≤ c.toNat)
    ⟨fun ⟨quote, backslash, printable⟩ => ⟨quote, backslash, printable⟩,
      fun ⟨quote, backslash, printable⟩ => ⟨quote, backslash, printable⟩⟩

/-- The text is a way to write the character between quotes. -/
inductive CharForm : Char → List Char → Prop
  | plain {c : Char} (own : Plain c) : CharForm c [c]
  | short {letter c : Char} (listed : (letter, c) ∈ shortEscapes) : CharForm c ['\\', letter]
  | code {c : Char} {digits : List Char} (quad : Quad c.toNat digits) :
      CharForm c ('\\' :: 'u' :: digits)
  /-- A character beyond four digits is written as two surrogates. -/
  | pair {c : Char} {leading trailing : Nat} {digits digits' : List Char}
      (quad : Quad leading digits) (quad' : Quad trailing digits') (first : Leading leading)
      (second : Trailing trailing)
      (whole : c.toNat = 0x10000 + (leading - 0xD800) * 0x400 + (trailing - 0xDC00)) :
      CharForm c ('\\' :: 'u' :: (digits ++ '\\' :: 'u' :: digits'))

/-- The text between quotes stands for the characters. -/
inductive Spells : List Char → List Char → Prop
  | nil : Spells [] []
  | cons {c : Char} {chars form text : List Char} (first : CharForm c form)
      (rest : Spells chars text) : Spells (c :: chars) (form ++ text)

theorem spells_of_plain {text : List Char} (plain : text.all fun c => Plain c) :
    Spells text text := by
  induction text with
  | nil => exact .nil
  | cons c text ih =>
    obtain ⟨own, rest⟩ := Bool.and_eq_true_iff.1 plain
    exact .cons (.plain (of_decide_eq_true own)) (ih rest)

/-- The text has the form of one between quotes. -/
inductive Inside : List Char → Prop
  | nil : Inside []
  | plain {c : Char} {text : List Char} (own : Plain c) (rest : Inside text) : Inside (c :: text)
  | short {letter c : Char} {text : List Char} (listed : (letter, c) ∈ shortEscapes)
      (rest : Inside text) : Inside ('\\' :: letter :: text)
  | code {n : Nat} {digits text : List Char} (quad : Quad n digits) (rest : Inside text) :
      Inside ('\\' :: 'u' :: (digits ++ text))

/-- A text that stands for characters has the form of one. -/
theorem Spells.inside {chars text : List Char} (spells : Spells chars text) : Inside text := by
  induction spells with
  | nil => exact .nil
  | cons first _ ih =>
    cases first with
    | plain own => exact .plain own ih
    | short listed => exact .short listed ih
    | code quad => exact .code quad ih
    | pair quad quad' =>
      simp only [List.cons_append, List.append_assoc]
      exact .code quad (.code quad' ih)

/-- A text with quotes around it. -/
def quotes (inside : List Char) : List Char := '"' :: (inside ++ ['"'])

/-! ## Numbers -/

/-- Digits without a zero in front, or a zero. -/
def WholeForm (text : List Char) : Prop :=
  text = ['0'] ∨ (Text.IsDigits text ∧ text.head? ≠ some '0')

/-- A point and digits, or nothing. -/
inductive FractionForm : List Char → Prop
  | absent : FractionForm []
  | digits {digits : List Char} (solid : Text.IsDigits digits) : FractionForm ('.' :: digits)

/-- A power of ten, or nothing. -/
inductive PowerForm : List Char → Prop
  | absent : PowerForm []
  | power {mark : Char} {sign : Text.Sign} {digits : List Char} (marked : mark = 'e' ∨ mark = 'E')
      (solid : Text.IsDigits digits) : PowerForm (mark :: (sign.chars ++ digits))

/-- A number behind its sign. -/
inductive UnsignedForm : List Char → Prop
  | parts {whole fraction power : List Char} (first : WholeForm whole)
      (second : FractionForm fraction) (third : PowerForm power) :
      UnsignedForm (whole ++ (fraction ++ power))

/-- A number. -/
inductive NumberForm : List Char → Prop
  | positive {text : List Char} (form : UnsignedForm text) : NumberForm text
  | negative {text : List Char} (form : UnsignedForm text) : NumberForm ('-' :: text)

/-! ## Values -/

/-- The character that opens an array or an object. -/
def Bracket.opening : Bracket → Char
  | .list => '['
  | .object => '\x7b'

/-- An item of an array or an object in its parts. -/
structure Item where
  before : List Char
  /-- A key and a colon, in an object. -/
  lead : List Char
  gap : List Char
  value : List Char
  behind : List Char

/-- An item as it is written. -/
def Item.text (item : Item) : List Char :=
  item.before ++ (item.lead ++ (item.gap ++ (item.value ++ item.behind)))

/-- The text may stand in front of a value between such brackets. -/
inductive Lead : Bracket → List Char → Prop
  | none : Lead .list []
  | key {inside blanks : List Char} (form : Inside inside) (blank : Blanks blanks) :
      Lead .object (quotes inside ++ (blanks ++ [':']))

/-- What is around the value of an item may stand there. -/
structure Item.Placed (bracket : Bracket) (item : Item) : Prop where
  before : Blanks item.before
  lead : Lead bracket item.lead
  gap : Blanks item.gap
  behind : Blanks item.behind

/-- Each text with a comma in front. -/
def commaLed (texts : List (List Char)) : List Char := texts.flatMap (',' :: ·)

/-- A value. -/
inductive ValueForm : List Char → Prop
  | null : ValueForm ['n', 'u', 'l', 'l']
  | isTrue : ValueForm ['t', 'r', 'u', 'e']
  | isFalse : ValueForm ['f', 'a', 'l', 's', 'e']
  | number {text : List Char} (form : NumberForm text) : ValueForm text
  | string {inside : List Char} (form : Inside inside) : ValueForm (quotes inside)
  | empty (bracket : Bracket) {gap : List Char} (blank : Blanks gap) :
      ValueForm (bracket.opening :: (gap ++ [bracket.closing]))
  | filled (bracket : Bracket) {item : Item} {items : List Item}
      (placed : ∀ i ∈ item :: items, i.Placed bracket)
      (values : ∀ i ∈ item :: items, ValueForm i.value) :
      ValueForm
        (bracket.opening :: (item.text ++ (commaLed (items.map Item.text) ++ [bracket.closing])))

/-! ## Objects -/

/-- A member of an object in its parts, with the name that its key stands for. -/
structure Member where
  name : String
  before : List Char
  key : List Char
  beforeColon : List Char
  behindColon : List Char
  value : List Char
  behind : List Char

/-- A member as it is written. -/
def Member.text (member : Member) : List Char :=
  member.before ++ (quotes member.key ++ (member.beforeColon ++ ':' ::
    (member.behindColon ++ (member.value ++ member.behind))))

/-- The parts of a member have their forms. -/
structure Member.Formed (member : Member) : Prop where
  before : Blanks member.before
  key : Spells member.name.toList member.key
  beforeColon : Blanks member.beforeColon
  behindColon : Blanks member.behindColon
  value : ValueForm member.value
  behind : Blanks member.behind

/-- The text between the braces of an object. Without members there may be blanks. -/
def membersText (gap : List Char) : List Member → List Char
  | [] => gap
  | member :: members => member.text ++ commaLed (members.map Member.text)

/-- The text is an object with these members. -/
structure ObjectForm (members : List Member) (text : List Char) : Prop where
  formed : ∀ member ∈ members, member.Formed
  parts : ∃ before gap behind, Blanks before ∧ Blanks gap ∧ Blanks behind ∧
    text = before ++ '\x7b' :: (membersText gap members ++ '\x7d' :: behind)

end Json

end CloudOps
