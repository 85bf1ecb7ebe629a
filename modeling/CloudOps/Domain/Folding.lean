import CloudOps.Domain.Image
import CloudOps.Text.Glyph
import CloudOps.Text.Joining
import CloudOps.Text.Parts

/-!
# What the characters of a domain name stand for

Domain names are read without regard to case, width and other variants.

* `foldedChar?`: what a character stands for, unless no domain name may hold it.
* `isPlain`: whether a character stands for itself.
* `folded?`: a text with each character replaced by what it stands for.
-/

namespace CloudOps

namespace Domain

/-- The image of a character among rows of images for characters `step` apart. -/
def imageIn? {α : Type} (rows : List (Nat × String)) (step : Nat) (images : String → List α)
    (code : Nat) : Option α :=
  rows.findSome? fun (first, row) =>
    if first ≤ code ∧ (code - first) % step = 0 then (images row)[(code - first) / step]? else none

/-- What a character stands for, if it is in the lists of images. -/
def image? (c : Char) : Option (List Char) :=
  ((imageIn? letterImages 1 String.toList c.toNat).or
    (imageIn? alternateImages 2 String.toList c.toNat)).map ([·]) |>.or
      (imageIn? wordImages 1 (fun row => Text.pieces ' ' row.toList) c.toNat)

/-- What a character stands for, unless no domain name may hold it. -/
def foldedChar? (c : Char) : Option (List Char) :=
  if c.toNat < 0x80 then some [c.toLower]
  else match image? c with
    | some image => some image
    | none =>
      if Text.inRanges ignoredRanges c.toNat then some []
      else if Text.isJoiner c then some [c]
      else if Text.lacksGlyph c || Text.inRanges refusedRanges c.toNat then none
      else some [c]

/-- The character stands for itself. -/
def isPlain (c : Char) : Bool := foldedChar? c = some [c]

/-- A text with each character replaced by what it stands for. -/
def folded? (text : List Char) : Option (List Char) := (text.mapM foldedChar?).map List.flatten

end Domain

end CloudOps
