import CloudOps.Text.Glyph

/-!
# Quoted text

Text as it is shown inside a message: in double quotes, on one line, with every character that
would not be visible written as an escape.

* `quoted`: the quoted form of a text.
* `escapeChar`: the form of one character. A quote and a backslash get a backslash before them,
  five control characters have a letter of their own, any other character without a visible form
  or one that would be drawn over its neighbour is written as its code point.
* `quotedList`: a list of texts in brackets.
-/

namespace CloudOps

namespace Text

/-- The digits of a number in base sixteen, lower case. -/
def hexDigits (n : Nat) : List Char := Nat.toDigits 16 n

/-- A character as its code point in base sixteen, between braces. -/
def codePointEscape (c : Char) : List Char :=
  ['\\', 'u', '\x7b'] ++ hexDigits c.toNat ++ ['\x7d']

/-- The form of one character between the quotes. -/
def escapeChar (c : Char) : List Char :=
  if c = '"' then ['\\', '"']
  else if c = '\\' then ['\\', '\\']
  else if c = '\n' then ['\\', 'n']
  else if c = '\r' then ['\\', 'r']
  else if c = '\t' then ['\\', 't']
  else if c.toNat = 0 then ['\\', '0']
  else if 0x20 ≤ c.toNat ∧ c.toNat ≤ 0x7E then [c]
  else if lacksGlyph c || extendsGrapheme c then codePointEscape c
  else [c]

/-- The quoted form of a text. -/
def quoted (text : String) : String :=
  String.ofList ('"' :: (text.toList.flatMap escapeChar ++ ['"']))

/-- The quoted forms of several texts, in brackets. -/
def quotedList (texts : List String) : String :=
  "[" ++ ", ".intercalate (texts.map quoted) ++ "]"

end Text

end CloudOps
