/-!
# Parts of a text

Cutting a text at a mark, into lines, and free of blanks around it.

* `cutAt`: what stands before the first mark, and what stands behind it if there is one.
* `cutAtLast`: what stands before the last mark and behind it, if there is one.
* `pieces`: what stands between marks.
* `trimmed`: a text without the characters of a class at both ends.
* `lines`: the lines of a text.
* `isBlankChar`: the characters that leave no ink, of any script.
-/

namespace CloudOps

namespace Text

/-- What stands before the first mark, and what stands behind it if there is one. -/
def cutAt (mark : Char) : List Char → List Char × Option (List Char)
  | [] => ([], none)
  | c :: rest =>
    if c = mark then ([], some rest)
    else ((c :: (cutAt mark rest).1), (cutAt mark rest).2)

/-- A text without a mark is not cut. -/
theorem cutAt_of_not_mem {mark : Char} {text : List Char} (h : mark ∉ text) :
    cutAt mark text = (text, none) := by
  induction text with
  | nil => rfl
  | cons c rest ih =>
    rw [List.mem_cons, not_or] at h
    rw [cutAt, if_neg (Ne.symm h.1), ih h.2]

/-- The first mark cuts. -/
theorem cutAt_append {mark : Char} {before : List Char} (h : mark ∉ before) (behind : List Char) :
    cutAt mark (before ++ mark :: behind) = (before, some behind) := by
  induction before with
  | nil => simp [cutAt]
  | cons c rest ih =>
    rw [List.mem_cons, not_or] at h
    rw [List.cons_append, cutAt, if_neg (Ne.symm h.1), ih h.2]

/-- What stands before the last mark and behind it, if there is one. -/
def cutAtLast (mark : Char) : List Char → Option (List Char × List Char)
  | [] => none
  | c :: rest =>
    match cutAtLast mark rest with
    | some (before, behind) => some (c :: before, behind)
    | none => if c = mark then some ([], rest) else none

/-- A text without the characters of a class at both ends. -/
def trimmed (inClass : Char → Bool) (text : List Char) : List Char :=
  ((text.dropWhile inClass).reverse.dropWhile inClass).reverse

/-- The pieces between marks, at least one. -/
def pieces (mark : Char) : List Char → List (List Char)
  | [] => [[]]
  | c :: rest =>
    if c = mark then [] :: pieces mark rest
    else match pieces mark rest with
      | [] => [[c]]
      | piece :: more => (c :: piece) :: more

/-- A line without the carriage return in front of its newline. -/
def withoutReturn (line : List Char) : List Char :=
  if line.getLast? = some '\r' then line.dropLast else line

/-- The lines of a text. What follows the last newline is a line as it stands. -/
def lines (text : List Char) : List (List Char) :=
  (pieces '\n' text).dropLast.map withoutReturn ++ (pieces '\n' text).getLast?.toList

/-- A space or a tab. -/
def isSpaceOrTab (c : Char) : Bool := c == ' ' || c == '\t'

/-- A character that leaves no ink: the White_Space class. -/
def isBlankChar (c : Char) : Bool :=
  let n := c.toNat
  (9 ≤ n && n ≤ 13) || n == 0x20 || n == 0x85 || n == 0xA0 || n == 0x1680 ||
    (0x2000 ≤ n && n ≤ 0x200A) || n == 0x2028 || n == 0x2029 || n == 0x202F || n == 0x205F ||
    n == 0x3000

end Text

end CloudOps
