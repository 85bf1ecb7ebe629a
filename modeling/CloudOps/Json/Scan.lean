import CloudOps.Json.Failure

/-!
# The tokens of JSON

* `skipBlanks`: the blanks between tokens.
* `readWord`: the rest of `null`, `true` or `false`.
* `readString`: the text of a string whose opening quote was read. `skipString` passes over one
  and looks no closer at its escapes than their length.
* `readNumber`: a number: whole numbers of 64 bits are exact, all others become floating point
  values. `skipNumber` passes over one.
-/

namespace CloudOps

namespace Json

/-- A blank between tokens. -/
def isBlank (c : Char) : Bool := c == ' ' || c == '\n' || c == '\t' || c == '\r'

/-- A text without the blanks in front. -/
def skipBlanks (text : List Char) : List Char := text.dropWhile isBlank

theorem skipBlanks_length_le (text : List Char) : (skipBlanks text).length ≤ text.length :=
  (List.dropWhile_sublist isBlank).length_le

/-- What follows a word, if the text begins with it. -/
def readWord : List Char → List Char → Except Stop (List Char)
  | [], text => .ok text
  | _ :: _, [] => Cause.unfinishedValue.before []
  | w :: word, c :: text =>
    if c = w then readWord word text else Cause.identExpected.on (c :: text)

/-! ## Strings -/

/-- The number that four characters stand for in base sixteen. -/
def hexQuad? (a b c d : Char) : Option Nat := do
  return (((← Text.hexValue? a) * 16 + (← Text.hexValue? b)) * 16 + (← Text.hexValue? c)) * 16 +
    (← Text.hexValue? d)

/-- The number of a unicode escape, and what follows its four digits. Four bytes are looked at,
whatever characters they belong to. -/
def readHex (text : List Char) : Except Stop (Nat × List Char) :=
  match text with
  | a :: b :: c :: d :: rest =>
    match hexQuad? a b c d with
    | some n => .ok (n, rest)
    | none => .error ⟨.invalidEscape, text, 4⟩
  | _ =>
    if byteCount text < 4 then Cause.unfinishedString.before []
    else .error ⟨.invalidEscape, text, 4⟩

/-- A leading surrogate. -/
def isLeading (n : Nat) : Bool := decide (0xD800 ≤ n) && decide (n ≤ 0xDBFF)

/-- A trailing surrogate. -/
def isTrailing (n : Nat) : Bool := decide (0xDC00 ≤ n) && decide (n ≤ 0xDFFF)

/-- The character of a pair of surrogates. -/
def surrogatePair (leading trailing : Nat) : Char :=
  Char.ofNat (0x10000 + (leading - 0xD800) * 0x400 + (trailing - 0xDC00))

/-- The second half of a surrogate pair, which stands in an escape of its own. -/
def readTrailing (leading : Nat) : List Char → Except Stop (Char × List Char)
  | [] => Cause.unfinishedString.before []
  | ['\\'] => Cause.unfinishedString.before []
  | '\\' :: 'u' :: text => do
    let (n, rest) ← readHex text
    if isTrailing n then .ok (surrogatePair leading n, rest) else Cause.loneSurrogate.before rest
  | '\\' :: text => Cause.hexEscapeEnds.on text
  | text => Cause.hexEscapeEnds.on text

/-- The character of a unicode escape. -/
def readUnicode (text : List Char) : Except Stop (Char × List Char) := do
  let (n, rest) ← readHex text
  if isTrailing n then Cause.loneSurrogate.before rest
  else if isLeading n then readTrailing n rest
  else .ok (Char.ofNat n, rest)

/-- The character that a letter stands for behind a backslash. -/
def shortEscape? (c : Char) : Option Char :=
  if c = '"' ∨ c = '\\' ∨ c = '/' then some c
  else if c = 'b' then some '\x08'
  else if c = 'f' then some '\x0c'
  else if c = 'n' then some '\n'
  else if c = 'r' then some '\r'
  else if c = 't' then some '\t'
  else none

/-- The character of an escape whose backslash was read. -/
def readEscape : List Char → Except Stop (Char × List Char)
  | [] => Cause.unfinishedString.before []
  | c :: rest =>
    if c = 'u' then readUnicode rest
    else match shortEscape? c with
      | some value => .ok (value, rest)
      | none => Cause.invalidEscape.on (c :: rest)

theorem readHex_length {text rest : List Char} {n : Nat} (h : readHex text = .ok (n, rest)) :
    rest.length < text.length := by
  unfold readHex at h
  split at h
  · split at h
    · simp only [Except.ok.injEq, Prod.mk.injEq] at h
      obtain ⟨-, rfl⟩ := h
      simp only [List.length_cons]; omega
    · cases h
  · split at h <;> cases h

theorem readTrailing_length {leading : Nat} {text rest : List Char} {c : Char}
    (h : readTrailing leading text = .ok (c, rest)) : rest.length < text.length := by
  unfold readTrailing at h
  split at h
  · cases h
  · cases h
  · rename_i tail
    simp only [bind, Except.bind] at h
    split at h
    · cases h
    · rename_i pair hex
      obtain ⟨n, after⟩ := pair
      have shorter := readHex_length hex
      simp only at h
      split at h
      · simp only [Except.ok.injEq, Prod.mk.injEq] at h
        obtain ⟨-, rfl⟩ := h
        simp only [List.length_cons]; omega
      · cases h
  · cases h
  · cases h

theorem readUnicode_length {text rest : List Char} {c : Char}
    (h : readUnicode text = .ok (c, rest)) : rest.length < text.length := by
  simp only [readUnicode, bind, Except.bind] at h
  split at h
  · cases h
  · rename_i pair hex
    obtain ⟨n, after⟩ := pair
    have shorter := readHex_length hex
    simp only at h
    split at h
    · cases h
    · split at h
      · have := readTrailing_length h
        omega
      · simp only [Except.ok.injEq, Prod.mk.injEq] at h
        obtain ⟨-, rfl⟩ := h
        exact shorter

/-- An escape takes at least one character. -/
theorem readEscape_length {text rest : List Char} {c : Char}
    (h : readEscape text = .ok (c, rest)) : rest.length < text.length := by
  unfold readEscape at h
  split at h
  · cases h
  · split at h
    · have := readUnicode_length h
      simp only [List.length_cons]; omega
    · split at h
      · simp only [Except.ok.injEq, Prod.mk.injEq] at h
        obtain ⟨-, rfl⟩ := h
        simp
      · cases h

/-- The characters of a string up to its closing quote, put behind those read before, which are
in reverse. -/
def readStringFrom (before : List Char) (text : List Char) : Except Stop (String × List Char) :=
  match text with
  | [] => Cause.unfinishedString.before []
  | c :: rest =>
    if c = '"' then .ok (String.ofList before.reverse, rest)
    else if c = '\\' then
      match h : readEscape rest with
      | .error stop => .error stop
      | .ok (value, after) =>
        have : after.length < rest.length := readEscape_length h
        readStringFrom (value :: before) after
    else if c.toNat < 0x20 then Cause.controlCharacter.on (c :: rest)
    else readStringFrom (c :: before) rest
termination_by text.length

/-- The text of a string whose opening quote was read. -/
def readString (text : List Char) : Except Stop (String × List Char) := readStringFrom [] text

/-- What follows an escape whose backslash was read. -/
def skipEscape : List Char → Except Stop (List Char)
  | [] => Cause.unfinishedString.before []
  | c :: rest =>
    if c = 'u' then (readHex rest).map Prod.snd
    else match shortEscape? c with
      | some _ => .ok rest
      | none => Cause.invalidEscape.on (c :: rest)

theorem skipEscape_length {text rest : List Char} (h : skipEscape text = .ok rest) :
    rest.length < text.length := by
  unfold skipEscape at h
  split at h
  · cases h
  · split at h
    · rename_i tail _
      cases hex : readHex tail with
      | error stop => simp [hex, Except.map] at h
      | ok pair =>
        obtain ⟨n, after⟩ := pair
        simp only [hex, Except.map, Except.ok.injEq] at h
        subst h
        have := readHex_length hex
        simp only [List.length_cons]; omega
    · split at h
      · simp only [Except.ok.injEq] at h
        subst h
        simp
      · cases h

/-- What follows a string whose opening quote was read. -/
def skipString (text : List Char) : Except Stop (List Char) :=
  match text with
  | [] => Cause.unfinishedString.before []
  | c :: rest =>
    if c = '"' then .ok rest
    else if c = '\\' then
      match h : skipEscape rest with
      | .error stop => .error stop
      | .ok after =>
        have : after.length < rest.length := skipEscape_length h
        skipString after
    else if c.toNat < 0x20 then Cause.controlCharacter.before (c :: rest)
    else skipString rest
termination_by text.length

/-! ## Numbers -/

/-- A number. Whole numbers are kept exactly where 64 bits hold them. -/
inductive Number
  | natural (value : Nat)
  /-- A whole number below zero, as its absolute value. -/
  | negative (value : Nat)
  | fractional (value : Binary64)
  deriving DecidableEq

/-- How a number is named in a message. -/
def Number.found : Number → Found
  | .natural n => .integer n
  | .negative n => .integer (-(n : Int))
  | .fractional x => .fractional x

/-- The largest significand that is kept. -/
def significandBound : Nat := UInt64.size - 1

/-- A significand with as many further digits as the bound allows, and the digits that are too
many. -/
def absorb : Nat → List Char → Nat × List Char
  | n, [] => (n, [])
  | n, c :: digits =>
    let m := n * 10 + Text.digitValue c
    if m ≤ significandBound then absorb m digits else (n, c :: digits)

/-- A power of ten as a floating point value. -/
def powerOfTen (exponent : Nat) : Binary64 := Binary64.ofRatio false (Nat.pow 10 exponent) 1

/-- A value times a power of ten, rounded after every step: powers up to 308 in one step, smaller
values in steps of 308. There is none when the result is too large. -/
def scaled (x : Binary64) (exponent : Int) : Option Binary64 :=
  if exponent.natAbs ≤ 308 then
    if 0 ≤ exponent then
      let product := x.times (powerOfTen exponent.natAbs)
      if product.isInfinite then none else some product
    else some (x.dividedBy (powerOfTen exponent.natAbs))
  else if x.isZero then some x
  else if 0 ≤ exponent then none
  else scaled (x.dividedBy (powerOfTen 308)) (exponent + 308)
termination_by exponent.natAbs
decreasing_by omega

/-- A number from its sign, its significand and its power of ten. -/
def fractionalOf (positive : Bool) (significand : Nat) (exponent : Int) (rest : List Char) :
    Except Stop (Number × List Char) :=
  match scaled (Binary64.ofNat significand) exponent with
  | some x => .ok (.fractional (if positive then x else x.neg), rest)
  | none => Cause.numberOutOfRange.before rest

/-- The largest power of ten that is looked at. -/
def exponentBound : Nat := 0x7FFFFFFF

/-- The value of the digits of a power of ten, or what follows the digit that makes it too
large. -/
def readExponentDigits : Nat → List Char → Except (List Char) (Nat × List Char)
  | n, [] => .ok (n, [])
  | n, c :: rest =>
    if Text.isDigit c then
      let m := n * 10 + Text.digitValue c
      if m ≤ exponentBound then readExponentDigits m rest else .error rest
    else .ok (n, c :: rest)

/-- A text without the digits in front. -/
def skipDigits (text : List Char) : List Char := text.dropWhile Text.isDigit

/-- A sign in front of a power of ten: whether it is a plus, and what follows. -/
def readSign : List Char → Bool × List Char
  | '+' :: rest => (true, rest)
  | '-' :: rest => (false, rest)
  | rest => (true, rest)

/-- A number whose power of ten is still to be read. -/
def readExponent (positive : Bool) (significand : Nat) (exponent : Int) (text : List Char) :
    Except Stop (Number × List Char) :=
  let (upward, digits) := readSign text
  match digits with
  | [] => Cause.unfinishedValue.before []
  | c :: rest =>
    if !Text.isDigit c then Cause.invalidNumber.on (c :: rest)
    else match readExponentDigits (Text.digitValue c) rest with
      | .ok (n, after) =>
        fractionalOf positive significand (if upward then exponent + n else exponent - n) after
      | .error after =>
        if significand ≠ 0 ∧ upward then Cause.numberOutOfRange.before after
        else .ok (.fractional (if positive then .zero else Binary64.zero.neg), skipDigits after)

/-- What may follow the digits of a number: a power of ten or nothing. -/
def readTail (positive : Bool) (significand : Nat) (exponent : Int) (text : List Char) :
    Except Stop (Number × List Char) :=
  match text with
  | c :: rest =>
    if c = 'e' ∨ c = 'E' then readExponent positive significand exponent rest
    else fractionalOf positive significand exponent text
  | [] => fractionalOf positive significand exponent []

/-- A number whose point was read. -/
def readFraction (positive : Bool) (significand : Nat) (exponent : Int) (text : List Char) :
    Except Stop (Number × List Char) :=
  let digits := text.takeWhile Text.isDigit
  let rest := skipDigits text
  if digits.isEmpty then
    match rest with
    | [] => Cause.unfinishedValue.before []
    | _ => Cause.invalidNumber.on rest
  else
    let (kept, surplus) := absorb significand digits
    readTail positive kept (exponent - (digits.length - surplus.length : Nat)) rest

/-- A whole number, as a 64-bit number if its sign and size allow. -/
def wholeNumber (positive : Bool) (significand : Nat) : Number :=
  if positive then .natural significand
  else if significand = 0 ∨ 0x8000000000000000 < significand then
    .fractional (Binary64.ofNat significand).neg
  else .negative significand

/-- What may follow the whole part of a number. -/
def readAfterWhole (positive : Bool) (significand : Nat) (surplus : Nat) (text : List Char) :
    Except Stop (Number × List Char) :=
  match text with
  | c :: rest =>
    if c = '.' then readFraction positive significand surplus rest
    else if c = 'e' ∨ c = 'E' then readExponent positive significand surplus rest
    else if surplus = 0 then .ok (wholeNumber positive significand, text)
    else fractionalOf positive significand surplus text
  | [] =>
    if surplus = 0 then .ok (wholeNumber positive significand, [])
    else fractionalOf positive significand surplus []

/-- A number whose sign was read. -/
def readUnsigned (positive : Bool) (text : List Char) : Except Stop (Number × List Char) :=
  match text with
  | [] => Cause.unfinishedValue.before []
  | c :: rest =>
    if c = '0' then
      match rest with
      | d :: _ =>
        if Text.isDigit d then Cause.invalidNumber.on rest
        else readAfterWhole positive 0 0 rest
      | [] => readAfterWhole positive 0 0 []
    else if Text.isDigit c then
      let digits := rest.takeWhile Text.isDigit
      let (kept, surplus) := absorb (Text.digitValue c) digits
      readAfterWhole positive kept surplus.length (skipDigits rest)
    else Cause.invalidNumber.on (c :: rest)

/-- A number. -/
def readNumber : List Char → Except Stop (Number × List Char)
  | '-' :: rest => readUnsigned false rest
  | text => readUnsigned true text

/-- What follows a power of ten whose letter was read. -/
def skipExponent (text : List Char) : Except Stop (List Char) :=
  match (readSign text).2 with
  | [] => Cause.invalidNumber.before []
  | c :: rest =>
    if Text.isDigit c then .ok (skipDigits rest) else Cause.invalidNumber.on (c :: rest)

/-- What follows the digits of a number. -/
def skipTail : List Char → Except Stop (List Char)
  | [] => .ok []
  | c :: rest => if c = 'e' ∨ c = 'E' then skipExponent rest else .ok (c :: rest)

/-- What follows the whole part of a number. -/
def skipAfterWhole : List Char → Except Stop (List Char)
  | '.' :: rest =>
    if (rest.takeWhile Text.isDigit).isEmpty then Cause.invalidNumber.on rest
    else skipTail (skipDigits rest)
  | text => skipTail text

/-- What follows a number whose sign was read. -/
def skipUnsigned : List Char → Except Stop (List Char)
  | [] => Cause.invalidNumber.before []
  | c :: rest =>
    if c = '0' then
      match rest with
      | d :: _ => if Text.isDigit d then Cause.invalidNumber.on rest else skipAfterWhole rest
      | [] => .ok []
    else if Text.isDigit c then skipAfterWhole (skipDigits rest)
    else Cause.invalidNumber.on (c :: rest)

/-- What follows a number. -/
def skipNumber : List Char → Except Stop (List Char)
  | '-' :: rest => skipUnsigned rest
  | text => skipUnsigned text

end Json

end CloudOps
