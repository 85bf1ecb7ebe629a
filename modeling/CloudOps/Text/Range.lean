/-!
# Ranges of code points

Properties of characters are kept as sorted lists of ranges, both ends included.

* `inRanges`: whether a code point lies in one of the ranges.
* `valueIn?`: the value of the range in which a code point lies.
-/

namespace CloudOps

namespace Text

/-- Whether a code point lies in one of the ranges. -/
def inRanges (ranges : List (Nat × Nat)) (code : Nat) : Bool :=
  ranges.any fun range => decide (range.1 ≤ code) && decide (code ≤ range.2)

/-- The value of the first range in which a code point lies. -/
def valueIn? {α : Type} (rows : List (Nat × Nat × α)) (code : Nat) : Option α :=
  (rows.find? fun row => decide (row.1 ≤ code) && decide (code ≤ row.2.1)).map fun row => row.2.2

end Text

end CloudOps
