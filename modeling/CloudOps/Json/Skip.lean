import CloudOps.Json.Value

/-!
# Passing over a JSON value

`Json.skipValue` gives what follows a value without building it. The brackets that are open are
kept in a list, so values may be nested as deep as they are written; escapes and numbers are
looked at only as far as their end has to be found.
-/

namespace CloudOps

namespace Json

/-! ## Lengths -/

theorem skipDigits_length_le (text : List Char) : (skipDigits text).length ≤ text.length :=
  (List.dropWhile_sublist Text.isDigit).length_le

theorem readWord_length_le {word text rest : List Char} (h : readWord word text = .ok rest) :
    rest.length ≤ text.length := by
  induction word generalizing text with
  | nil => simp only [readWord, Except.ok.injEq] at h; simp [h]
  | cons w word ih =>
    cases text with
    | nil => simp [readWord, Cause.before] at h
    | cons c text =>
      simp only [readWord] at h
      split at h
      · have := ih h
        simp only [List.length_cons]; omega
      · cases h

theorem readSign_length_le (text : List Char) : (readSign text).2.length ≤ text.length := by
  unfold readSign
  split <;> simp

theorem skipExponent_length_le {text rest : List Char} (h : skipExponent text = .ok rest) :
    rest.length ≤ text.length := by
  have sign := readSign_length_le text
  unfold skipExponent at h
  split at h
  · cases h
  · rename_i c digits eq
    rw [eq] at sign
    split at h
    · simp only [Except.ok.injEq] at h
      subst h
      have := skipDigits_length_le digits
      simp only [List.length_cons] at sign
      omega
    · cases h

theorem skipTail_length_le {text rest : List Char} (h : skipTail text = .ok rest) :
    rest.length ≤ text.length := by
  unfold skipTail at h
  split at h
  · simp only [Except.ok.injEq] at h; simp [← h]
  · split at h
    · have := skipExponent_length_le h
      simp only [List.length_cons]; omega
    · simp only [Except.ok.injEq] at h; simp [← h]

theorem skipAfterWhole_length_le {text rest : List Char} (h : skipAfterWhole text = .ok rest) :
    rest.length ≤ text.length := by
  unfold skipAfterWhole at h
  split at h
  · rename_i digits
    split at h
    · cases h
    · have step := skipTail_length_le h
      have := skipDigits_length_le digits
      simp only [List.length_cons]; omega
  · exact skipTail_length_le h

/-- A number takes at least one digit. -/
theorem skipUnsigned_length {text rest : List Char} (h : skipUnsigned text = .ok rest) :
    rest.length < text.length := by
  unfold skipUnsigned at h
  split at h
  · cases h
  · split at h
    · split at h
      · split at h
        · cases h
        · have := skipAfterWhole_length_le h
          simp only [List.length_cons] at this ⊢; omega
      · simp only [Except.ok.injEq] at h; simp [← h]
    · split at h
      · rename_i c tail _ _
        have step := skipAfterWhole_length_le h
        have := skipDigits_length_le tail
        simp only [List.length_cons]; omega
      · cases h

theorem skipNumber_length {text rest : List Char} (h : skipNumber text = .ok rest) :
    rest.length < text.length := by
  unfold skipNumber at h
  split at h
  · have := skipUnsigned_length h
    simp only [List.length_cons]; omega
  · exact skipUnsigned_length h

theorem skipString_length {text rest : List Char} (h : skipString text = .ok rest) :
    rest.length < text.length := by
  fun_induction skipString text with
  | case1 => cases h
  | case2 => simp only [Except.ok.injEq] at h; simp [h]
  | case3 => cases h
  | case4 tail _ after _ shorter ih =>
    have := ih h
    simp only [List.length_cons]; omega
  | case5 => cases h
  | case6 c tail _ _ _ ih =>
    have := ih h
    simp only [List.length_cons]; omega

theorem readColon_length {text rest : List Char} (h : readColon text = .ok rest) :
    rest.length < text.length := by
  have blanks := skipBlanks_length_le text
  unfold readColon at h
  split at h
  · cases h
  · rename_i tail eq
    simp only [Except.ok.injEq] at h
    subst h
    rw [eq] at blanks
    simp only [List.length_cons] at blanks
    omega
  · cases h

/-! ## Values -/

/-- An array or an object that is open. -/
inductive Bracket
  | list
  | object
  deriving DecidableEq

/-- The character that closes it. -/
def Bracket.closing : Bracket → Char
  | .list => ']'
  | .object => '\x7d'

/-- What is wrong when the text ends inside it. -/
def Bracket.unfinished : Bracket → Cause
  | .list => .unfinishedList
  | .object => .unfinishedObject

/-- What is wrong when something else than a comma follows an item. -/
def Bracket.commaExpected : Bracket → Cause
  | .list => .listCommaExpected
  | .object => .objectCommaExpected

/-- A value that is a single token, without its first character, or the bracket that is opened
instead. -/
def skipToken (text : List Char) : Except Stop (Option Bracket × List Char) :=
  match text with
  | [] => Cause.unfinishedValue.before []
  | c :: rest =>
    if c = 'n' then (readWord ['u', 'l', 'l'] rest).map (none, ·)
    else if c = 't' then (readWord ['r', 'u', 'e'] rest).map (none, ·)
    else if c = 'f' then (readWord ['a', 'l', 's', 'e'] rest).map (none, ·)
    else if c = '-' ∨ Text.isDigit c = true then (skipNumber text).map (none, ·)
    else if c = '"' then (skipString rest).map (none, ·)
    else if c = '[' then .ok (some .list, rest)
    else if c = '\x7b' then .ok (some .object, rest)
    else Cause.valueExpected.on text

/-- What stands in front of an item: nothing in an array, a key and a colon in an object. -/
def skipKey (bracket : Bracket) (text : List Char) : Except Stop (List Char) :=
  match bracket with
  | .list => .ok text
  | .object =>
    match skipBlanks text with
    | [] => Cause.unfinishedObject.before []
    | c :: rest =>
      if c = '"' then (skipString rest).bind readColon else Cause.keyExpected.on (c :: rest)

theorem map_pair_ok {α β : Type} {e : Except Stop α} {b : β} {p : β × α}
    (h : e.map (b, ·) = .ok p) : p.1 = b ∧ e = .ok p.2 := by
  cases e with
  | error stop => simp [Except.map] at h
  | ok a => simp only [Except.map, Except.ok.injEq] at h; subst h; exact ⟨rfl, rfl⟩

theorem skipToken_length {text : List Char} {p : Option Bracket × List Char}
    (h : skipToken text = .ok p) : p.2.length < text.length := by
  unfold skipToken at h
  split at h
  · cases h
  · split at h
    · have := readWord_length_le (map_pair_ok h).2
      simp only [List.length_cons]; omega
    · split at h
      · have := readWord_length_le (map_pair_ok h).2
        simp only [List.length_cons]; omega
      · split at h
        · have := readWord_length_le (map_pair_ok h).2
          simp only [List.length_cons]; omega
        · split at h
          · exact skipNumber_length (map_pair_ok h).2
          · split at h
            · have := skipString_length (map_pair_ok h).2
              simp only [List.length_cons]; omega
            · split at h
              · simp only [Except.ok.injEq] at h; subst h; simp
              · split at h
                · simp only [Except.ok.injEq] at h; subst h; simp
                · cases h

theorem skipKey_length_le {bracket : Bracket} {text rest : List Char}
    (h : skipKey bracket text = .ok rest) : rest.length ≤ text.length := by
  have blanks := skipBlanks_length_le text
  unfold skipKey at h
  split at h
  · simp only [Except.ok.injEq] at h; simp [h]
  · split at h
    · cases h
    · rename_i c tail eq
      rw [eq] at blanks
      split at h
      · cases inner : skipString tail with
        | error stop => simp [inner, Except.bind] at h
        | ok after =>
          simp only [inner, Except.bind] at h
          have first := skipString_length inner
          have second := readColon_length h
          simp only [List.length_cons] at blanks
          omega
      · cases h

/-- Where a reader stands among nested values. -/
inductive Place
  /-- In front of a value. -/
  | value
  /-- Behind an opening bracket. -/
  | opened
  /-- Behind a value. -/
  | closed
  deriving DecidableEq

/-- The places in the order in which they may follow each other without a character between. -/
def Place.rank : Place → Nat
  | .value => 0
  | .opened => 1
  | .closed => 0

/-- What follows a value, its brackets and the brackets that are open around it. -/
def skipFrom (place : Place) (brackets : List Bracket) (text : List Char) :
    Except Stop (List Char) :=
  match place, brackets with
  | .value, _ =>
    match h : skipToken (skipBlanks text) with
    | .error stop => .error stop
    | .ok (none, rest) =>
      have : rest.length < text.length :=
        Nat.lt_of_lt_of_le (skipToken_length h) (skipBlanks_length_le text)
      skipFrom .closed brackets rest
    | .ok (some bracket, rest) =>
      have : rest.length < text.length :=
        Nat.lt_of_lt_of_le (skipToken_length h) (skipBlanks_length_le text)
      skipFrom .opened (bracket :: brackets) rest
  | _, [] => .ok text
  | .opened, bracket :: outer =>
    match h : skipBlanks text with
    | [] => bracket.unfinished.before []
    | c :: rest =>
      have : (c :: rest).length ≤ text.length := h ▸ skipBlanks_length_le text
      if c = bracket.closing then skipFrom .closed outer rest
      else match hk : skipKey bracket (c :: rest) with
        | .error stop => .error stop
        | .ok item =>
          have : item.length ≤ (c :: rest).length := skipKey_length_le hk
          skipFrom .value (bracket :: outer) item
  | .closed, bracket :: outer =>
    match h : skipBlanks text with
    | [] => bracket.unfinished.before []
    | c :: rest =>
      have : (c :: rest).length ≤ text.length := h ▸ skipBlanks_length_le text
      if c = ',' then
        match hk : skipKey bracket rest with
        | .error stop => .error stop
        | .ok item =>
          have : item.length ≤ rest.length := skipKey_length_le hk
          skipFrom .value (bracket :: outer) item
      else if c = bracket.closing then skipFrom .closed outer rest
      else bracket.commaExpected.on (c :: rest)
termination_by (text.length, place.rank)
decreasing_by
  all_goals simp only [Prod.lex_def, Place.rank, List.length_cons] at *
  all_goals omega

/-- What follows a value. -/
def skipValue (text : List Char) : Except Stop (List Char) := skipFrom .value [] text

end Json

end CloudOps
