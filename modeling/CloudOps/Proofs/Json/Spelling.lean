import CloudOps.Proofs.Json.Grammar
import Mathlib

/-!
# Strings are read however they are spelled

* `readHex_quad`, `readEscape_short`, `readUnicode_code`, `readUnicode_pair`: escapes.
* `readStringFrom_charForm`: one character, whatever its form. `readString_spells`: a whole string.
* `Inside.spells_or_unreadable`: a text between quotes stands for some characters, or it cannot be
  read. `readString_eq_ok_iff`: so the reader takes exactly the texts that stand for characters.
* `skipString_inside`: a string is passed over, whether or not it can be read.
-/

namespace CloudOps

namespace Json

/-! ## Escapes -/

theorem hexValue?_of_hexDigit {n : Nat} {c : Char} (digit : HexDigit n c) :
    Text.hexValue? c = some n := by
  have lower : ∀ n < 16, Text.hexValue? (Nat.digitChar n) = some n := by decide
  have upper : ∀ n < 16, Text.hexValue? (Nat.digitChar n).toUpper = some n := by decide
  obtain ⟨small, rfl | rfl⟩ := digit
  · exact lower n small
  · exact upper n small

theorem readHex_quad {n : Nat} {digits : List Char} (quad : Quad n digits) (rest : List Char) :
    readHex (digits ++ rest) = .ok (n, rest) := by
  cases quad with
  | digits first second third last =>
    simp only [List.cons_append, List.nil_append, readHex, hexQuad?, hexValue?_of_hexDigit first,
      hexValue?_of_hexDigit second, hexValue?_of_hexDigit third, hexValue?_of_hexDigit last]
    rfl

theorem Quad.lt {n : Nat} {digits : List Char} (quad : Quad n digits) : n < 0x10000 := by
  cases quad with
  | digits first second third last =>
    have := first.1
    have := second.1
    have := third.1
    have := last.1
    omega

theorem isLeading_iff {n : Nat} : isLeading n = true ↔ Leading n := by
  simp [isLeading, Leading]

theorem isTrailing_iff {n : Nat} : isTrailing n = true ↔ Trailing n := by
  simp [isTrailing, Trailing]

/-- No character is a surrogate. -/
theorem not_surrogate (c : Char) : ¬ Leading c.toNat ∧ ¬ Trailing c.toNat := by
  have valid : c.toNat < 0xD800 ∨ 0xDFFF < c.toNat ∧ c.toNat < 0x110000 := c.valid
  simp only [Leading, Trailing]
  omega

theorem shortEscape?_of_listed {letter c : Char} (listed : (letter, c) ∈ shortEscapes) :
    letter ≠ 'u' ∧ shortEscape? letter = some c := by
  have known : ∀ p ∈ shortEscapes, p.1 ≠ 'u' ∧ shortEscape? p.1 = some p.2 := by decide
  exact known _ listed

theorem readEscape_short {letter c : Char} (listed : (letter, c) ∈ shortEscapes)
    (rest : List Char) : readEscape (letter :: rest) = .ok (c, rest) := by
  obtain ⟨other, value⟩ := shortEscape?_of_listed listed
  simp only [readEscape, if_neg other, value]

/-- What a unicode escape comes to, by the number of its digits. -/
theorem readUnicode_quad {n : Nat} {digits : List Char} (quad : Quad n digits) (rest : List Char) :
    readUnicode (digits ++ rest) =
      if isTrailing n then Cause.loneSurrogate.before rest
      else if isLeading n then readTrailing n rest
      else .ok (Char.ofNat n, rest) := by
  rw [readUnicode, readHex_quad quad]
  rfl

theorem readUnicode_code {c : Char} {digits : List Char} (quad : Quad c.toNat digits)
    (rest : List Char) : readUnicode (digits ++ rest) = .ok (c, rest) := by
  obtain ⟨leading, trailing⟩ := not_surrogate c
  rw [readUnicode_quad quad, if_neg (mt isTrailing_iff.1 trailing),
    if_neg (mt isLeading_iff.1 leading), Char.ofNat_toNat]

/-- The first half of a pair decides nothing. -/
theorem readUnicode_leading {n : Nat} {digits : List Char} (quad : Quad n digits)
    (leading : Leading n) (rest : List Char) :
    readUnicode (digits ++ rest) = readTrailing n rest := by
  have : ¬ Trailing n := by
    simp only [Leading, Trailing] at leading ⊢
    omega
  rw [readUnicode_quad quad, if_neg (mt isTrailing_iff.1 this), if_pos (isLeading_iff.2 leading)]

theorem readUnicode_pair {c : Char} {leading trailing : Nat} {digits digits' : List Char}
    (quad : Quad leading digits) (quad' : Quad trailing digits') (first : Leading leading)
    (second : Trailing trailing)
    (whole : c.toNat = 0x10000 + (leading - 0xD800) * 0x400 + (trailing - 0xDC00))
    (rest : List Char) :
    readUnicode (digits ++ '\\' :: 'u' :: (digits' ++ rest)) = .ok (c, rest) := by
  have pair : surrogatePair leading trailing = c := by
    rw [surrogatePair, ← whole, Char.ofNat_toNat]
  rw [readUnicode_leading quad first, readTrailing, readHex_quad quad']
  simp only [bind, Except.bind, if_pos (isTrailing_iff.2 second), pair]

/-! ## Characters -/

/-- An escape is read, and then what follows it. -/
theorem readStringFrom_backslash (before text : List Char) :
    readStringFrom before ('\\' :: text) =
      (readEscape text).bind fun (c, after) => readStringFrom (c :: before) after := by
  rw [readStringFrom, if_neg (by decide), if_pos rfl]
  split
  case h_1 stop escape => rw [escape]; rfl
  case h_2 value after escape =>
    show readStringFrom (value :: before) after = _
    rw [escape]
    rfl

theorem readStringFrom_plain {c : Char} (own : Plain c) (before rest : List Char) :
    readStringFrom before (c :: rest) = readStringFrom (c :: before) rest := by
  rw [readStringFrom, if_neg own.quote, if_neg own.backslash, if_neg (Nat.not_lt.2 own.printable)]

/-- **Characters.** A character is read, whatever its form. -/
theorem readStringFrom_charForm {c : Char} {form : List Char} (h : CharForm c form)
    (before rest : List Char) :
    readStringFrom before (form ++ rest) = readStringFrom (c :: before) rest := by
  cases h with
  | plain own => exact readStringFrom_plain own before rest
  | short listed =>
    rw [List.cons_append, List.cons_append, List.nil_append, readStringFrom_backslash,
      readEscape_short listed]
    rfl
  | code quad =>
    rw [List.cons_append, List.cons_append, readStringFrom_backslash]
    show ((readUnicode _).bind _) = _
    rw [readUnicode_code quad]
    rfl
  | pair quad quad' first second whole =>
    rw [List.cons_append, List.cons_append, List.append_assoc, List.cons_append, List.cons_append,
      readStringFrom_backslash]
    show ((readUnicode _).bind _) = _
    rw [readUnicode_pair quad quad' first second whole]
    rfl

theorem readStringFrom_spells {chars text : List Char} (spells : Spells chars text)
    (before rest : List Char) :
    readStringFrom before (text ++ '"' :: rest) =
      .ok (String.ofList (before.reverse ++ chars), rest) := by
  induction spells generalizing before with
  | nil => rw [List.nil_append, readStringFrom, if_pos rfl, List.append_nil]
  | cons first _ ih =>
    rw [List.append_assoc, readStringFrom_charForm first, ih, List.reverse_cons, List.append_assoc,
      List.singleton_append]

/-- **Strings.** A string is read, however it is spelled. -/
theorem readString_spells {value : String} {text : List Char} (spells : Spells value.toList text)
    (rest : List Char) : readString (text ++ '"' :: rest) = .ok (value, rest) := by
  rw [readString, readStringFrom_spells spells, List.reverse_nil, List.nil_append,
    String.ofList_toList]

/-! ## Texts that stand for no characters -/

/-- The text between quotes cannot be read. -/
def Unreadable (text : List Char) : Prop :=
  ∀ before rest, ∃ stop, readStringFrom before (text ++ '"' :: rest) = .error stop

theorem Unreadable.behind {c : Char} {form text : List Char} (unreadable : Unreadable text)
    (h : CharForm c form) : Unreadable (form ++ text) := by
  intro before rest
  rw [List.append_assoc, readStringFrom_charForm h]
  exact unreadable (c :: before) rest

/-- A text with an escape that cannot be read. -/
theorem unreadable_of_escape {text : List Char}
    (h : ∀ rest, ∃ stop, readEscape (text ++ '"' :: rest) = .error stop) :
    Unreadable ('\\' :: text) := by
  intro before rest
  obtain ⟨stop, failed⟩ := h rest
  rw [List.cons_append, readStringFrom_backslash, failed]
  exact ⟨stop, rfl⟩

/-- The first half of a pair has to be followed by an escape with digits. -/
theorem readTrailing_error {text : List Char} (n : Nat)
    (other : ∀ more, text ≠ '\\' :: 'u' :: more) : ∃ stop, readTrailing n text = .error stop := by
  unfold readTrailing
  split
  case h_3 more => exact absurd rfl (other more)
  all_goals exact ⟨_, rfl⟩

/-- What stands in front of a text with the form of one between quotes does not decide whether its
characters are read, if it is a character itself. -/
theorem spells_or_unreadable_cons {c : Char} {form text : List Char} (h : CharForm c form)
    (rest : (∃ chars, Spells chars text) ∨ Unreadable text) :
    (∃ chars, Spells chars (form ++ text)) ∨ Unreadable (form ++ text) := by
  rcases rest with ⟨chars, spells⟩ | unreadable
  · exact .inl ⟨_, .cons h spells⟩
  · exact .inr (unreadable.behind h)

/-- A surrogate and what follows it: the other half of a pair, or a mistake. -/
theorem spells_or_unreadable_leading {n : Nat} {digits text : List Char} (quad : Quad n digits)
    (leading : Leading n) (inside : Inside text)
    (rest : ∀ text', Inside text' → text'.length < text.length →
      (∃ chars, Spells chars text') ∨ Unreadable text') :
    (∃ chars, Spells chars ('\\' :: 'u' :: (digits ++ text))) ∨
      Unreadable ('\\' :: 'u' :: (digits ++ text)) := by
  have alone (other : ∀ rest more, text ++ '"' :: rest ≠ '\\' :: 'u' :: more) :
      Unreadable ('\\' :: 'u' :: (digits ++ text)) := by
    refine unreadable_of_escape fun rest => ?_
    show ∃ stop, readUnicode (digits ++ text ++ '"' :: rest) = .error stop
    rw [List.append_assoc, readUnicode_leading quad leading]
    exact readTrailing_error n (other rest)
  cases inside with
  | nil => exact .inr (alone (by simp))
  | plain own _ => exact .inr (alone fun _ _ same => own.backslash (List.cons.inj same).1)
  | short listed _ =>
    have other := (shortEscape?_of_listed listed).1
    exact .inr (alone fun _ _ same => other (List.cons.inj (List.cons.inj same).2).1)
  | @code m digits' text' quad' inside' =>
    by_cases trailing : Trailing m
    · have valid : (0x10000 + (n - 0xD800) * 0x400 + (m - 0xDC00)).isValidChar := by
        simp only [Leading, Trailing] at leading trailing
        exact .inr (by omega)
      have whole := CharForm.pair quad quad' leading trailing
        ((Char.toNat_ofNat _).trans (if_pos valid))
      have shorter : text'.length < ('\\' :: 'u' :: (digits' ++ text')).length := by
        simp only [List.length_cons, List.length_append]
        omega
      have both := spells_or_unreadable_cons whole (rest text' inside' shorter)
      simpa using both
    · refine .inr (unreadable_of_escape fun rest => ?_)
      show ∃ stop, readUnicode (digits ++ '\\' :: 'u' :: (digits' ++ text') ++ '"' :: rest) = _
      rw [List.append_assoc, readUnicode_leading quad leading, List.cons_append, List.cons_append,
        List.append_assoc, readTrailing, readHex_quad quad']
      simp only [bind, Except.bind, if_neg (mt isTrailing_iff.1 trailing)]
      exact ⟨_, rfl⟩

/-- A text between quotes stands for some characters, or it cannot be read. -/
theorem Inside.spells_or_unreadable {text : List Char} (inside : Inside text) :
    (∃ chars, Spells chars text) ∨ Unreadable text := by
  -- a pair of surrogates takes two escapes at once, so the induction is on the length
  induction size : text.length using Nat.strongRecOn generalizing text with
  | ind length ih =>
    subst size
    have ih {text' : List Char} (inside' : Inside text') (shorter : text'.length < text.length) :=
      ih _ shorter inside' rfl
    cases inside with
    | nil => exact .inl ⟨[], .nil⟩
    | plain own rest => exact spells_or_unreadable_cons (.plain own) (ih rest (by simp))
    | @short letter _ text' listed rest =>
      have shorter : text'.length < ('\\' :: letter :: text').length := by
        simp only [List.length_cons]
        omega
      exact spells_or_unreadable_cons (.short listed) (ih rest shorter)
    | @code n digits text' quad rest =>
      have shorter : text'.length < ('\\' :: 'u' :: (digits ++ text')).length := by
        simp only [List.length_cons, List.length_append]
        omega
      by_cases leading : Leading n
      · exact spells_or_unreadable_leading quad leading rest fun _ inside' h =>
          ih inside' (Nat.lt_trans h shorter)
      by_cases trailing : Trailing n
      · refine .inr (unreadable_of_escape fun rest => ?_)
        show ∃ stop, readUnicode (digits ++ text' ++ '"' :: rest) = .error stop
        rw [List.append_assoc, readUnicode_quad quad, if_pos (isTrailing_iff.2 trailing)]
        exact ⟨_, rfl⟩
      · have valid : n.isValidChar := by
          have := quad.lt
          simp only [Leading, Trailing] at leading trailing
          show n < 0xD800 ∨ 0xDFFF < n ∧ n < 0x110000
          omega
        have quad' : Quad (Char.ofNat n).toNat digits := by rwa [Char.toNat_ofNat, if_pos valid]
        exact spells_or_unreadable_cons (.code quad') (ih rest shorter)

/-- **What the reader of strings takes.** A text with the form of one between quotes is read exactly
as the characters that it stands for. -/
theorem readString_eq_ok_iff {text rest after : List Char} {value : String} (inside : Inside text) :
    readString (text ++ '"' :: rest) = .ok (value, after) ↔
      Spells value.toList text ∧ after = rest := by
  constructor
  · intro read
    rcases inside.spells_or_unreadable with ⟨chars, spells⟩ | unreadable
    · rw [readString, readStringFrom_spells spells, List.reverse_nil, List.nil_append] at read
      simp only [Except.ok.injEq, Prod.mk.injEq] at read
      obtain ⟨rfl, rfl⟩ := read
      rw [String.toList_ofList]
      exact ⟨spells, rfl⟩
    · obtain ⟨stop, failed⟩ := unreadable [] rest
      rw [readString, failed] at read
      cases read
  · rintro ⟨spells, rfl⟩
    exact readString_spells spells after

/-! ## Passing over a string -/

theorem skipString_backslash (text : List Char) :
    skipString ('\\' :: text) = (skipEscape text).bind skipString := by
  rw [skipString, if_neg (by decide), if_pos rfl]
  split
  case h_1 stop escape => rw [escape]; rfl
  case h_2 after escape =>
    show skipString after = _
    rw [escape]
    rfl

/-- A string is passed over. Its escapes need not stand for characters. -/
theorem skipString_inside {text : List Char} (inside : Inside text) (rest : List Char) :
    skipString (text ++ '"' :: rest) = .ok rest := by
  induction inside with
  | nil => rw [List.nil_append, skipString, if_pos rfl]
  | plain own _ ih =>
    rw [List.cons_append, skipString, if_neg own.quote, if_neg own.backslash,
      if_neg (Nat.not_lt.2 own.printable), ih]
  | @short letter c text listed _ ih =>
    obtain ⟨other, value⟩ := shortEscape?_of_listed listed
    have escape (more : List Char) : skipEscape (letter :: more) = .ok more := by
      simp only [skipEscape, if_neg other, value]
    rw [List.cons_append, List.cons_append, skipString_backslash, escape]
    exact ih
  | @code n digits text quad _ ih =>
    have escape (more : List Char) : skipEscape ('u' :: (digits ++ more)) = .ok more := by
      rw [skipEscape, if_pos rfl, readHex_quad quad]
      rfl
    rw [List.cons_append, List.cons_append, List.append_assoc, skipString_backslash, escape]
    exact ih

end Json

end CloudOps
