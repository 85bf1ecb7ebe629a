import CloudOps.Text.Composed.Classes
import CloudOps.Text.Composed.Pairs

/-!
# The composed form of a text

One text can be written in several ways: a letter with two marks, the marks in another order, or
one character for all three. The composed form (Normalization Form C) is the one with as few
characters as there can be, and with the marks that are left in the order of their classes.

* `decomposed`: a character taken apart as far as it goes. Korean syllables stay whole, since no
  mark comes between their parts.
* `inOrder`: the marks behind each character in the order of their classes.
* `composed`: the composed form.
-/

namespace CloudOps

namespace Text

/-- A character taken apart as far as it goes. A first part has a smaller code point than the
whole. -/
def decomposed (c : Char) : List Char :=
  match parts? c with
  | none => [c]
  | some (first, mark) =>
    if first.toNat < c.toNat then decomposed first ++ [mark] else [c]
termination_by c.toNat

/-- A text with a character in front, which moves behind marks of lower classes than its own. -/
def withFront (c : Char) : List Char → List Char
  | [] => [c]
  | d :: rest =>
    if 0 < combiningClass d ∧ combiningClass d < combiningClass c then d :: withFront c rest
    else c :: d :: rest

/-- The marks behind each character in the order of their classes. Marks of one class keep their
order. -/
def inOrder (text : List Char) : List Char := text.foldr withFront []

/-- A text whose first character takes in the marks that combine with it. `between` holds the marks
behind it that did not; a mark is kept from it by one before it of the same class or a higher
one. -/
def composedFrom (base : Char) (between : List Char) : List Char → List Char
  | [] => base :: between
  | c :: rest =>
    let blocked := between.getLast?.any fun last => combiningClass c ≤ combiningClass last
    match if blocked then none else combined? base c with
    | some both => composedFrom both between rest
    | none =>
      if combiningClass c = 0 then base :: between ++ composedFrom c [] rest
      else composedFrom base (between ++ [c]) rest

/-- A text in order whose characters take in the marks that combine with them. -/
def recomposed (text : List Char) : List Char :=
  let isFree : Char → Bool := fun c => combiningClass c ≠ 0
  match text.dropWhile isFree with
  | [] => text
  | base :: rest => text.takeWhile isFree ++ composedFrom base [] rest

/-- The composed form of a text. -/
def composed (text : List Char) : List Char := recomposed (inOrder (text.flatMap decomposed))

end Text

end CloudOps
