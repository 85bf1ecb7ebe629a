import CloudOps.Domain.Folding
import CloudOps.Domain.Punycode
import CloudOps.Text.Composed
import CloudOps.Text.Direction

/-!
# Labels of domain names

A domain name is a list of labels with full stops between them. A label with letters beyond ASCII
may be written in those letters, or in ASCII behind the sign `xn--`.

* `lettersOf?`: the letters of a label, whichever way it is written.
* `isWellFormed`: whether the letters make a label.
* `labels?`: the labels of a domain name, if it is one.
-/

namespace CloudOps

namespace Domain

/-- An ASCII character. -/
def isAscii (c : Char) : Bool := c.toNat < 0x80

/-- A character that a domain name may hold, among those that stand for themselves: no blank, no
control character, and none of those that have a meaning in a URL. -/
def isAllowed (c : Char) : Bool :=
  0x20 < c.toNat && c.toNat ≠ 0x7F &&
    c ∉ ['#', '%', '/', ':', '<', '>', '?', '@', '[', '\\', ']', '^', '|']

/-- The sign in front of an encoded label. -/
def encodingSign : List Char := ['x', 'n', '-', '-']

/-- The longest code that is looked at. -/
def codeLimit : Nat := 2000

/-- The longest label that is encoded. -/
def letterLimit : Nat := 1000

/-- The letters that a code stands for. Each label has one code only, so the letters have to be
plain and in composed form, and what can be written without a code is not written with one. -/
def decodedLetters? (code : List Char) : Option (List Char) := do
  if !code.all isAscii || code.isEmpty || code.getLast? = some '-' || codeLimit < code.length then
    none
  let letters ← Punycode.decode? code
  if letters.all isPlain && letters.all isAllowed && Text.composed letters = letters then
    some letters
  else none

/-- The letters of a label, whichever way it is written. -/
def lettersOf? (label : List Char) : Option (List Char) :=
  if encodingSign.isPrefixOf label then decodedLetters? (label.drop encodingSign.length)
  else some label

/-- The letters make a label: no mark without a letter under it, no joiner out of place, and not too
many letters to encode. -/
def isWellFormed (letters : List Char) : Bool :=
  !letters.head?.any Text.isMark && Text.joinersFit Text.isVirama [] letters &&
    (letters.all isAscii || letters.length ≤ letterLimit)

/-- The character is written from right to left, or is a digit of such text. -/
def isRightToLeft (c : Char) : Bool := Text.direction c ∈ [.right, .arabic]

/-- The labels keep their order when the name is shown. Where one holds right-to-left text, each of
them has to run one way; an empty label has no order to lose. -/
def keepOrder (labels : List (List Char)) : Bool :=
  !labels.any (·.any isRightToLeft) ||
    labels.all fun letters => letters.isEmpty || Text.runsOneWay (letters.map Text.direction)

/-- The labels of a domain name in their letters, if the text is one. -/
def labels? (text : List Char) : Option (List (List Char)) := do
  let name := Text.composed (← folded? text)
  if !name.all isAllowed then none
  let labels ← (Text.pieces '.' name).mapM lettersOf?
  if labels.all isWellFormed && keepOrder labels then some labels else none

end Domain

end CloudOps
