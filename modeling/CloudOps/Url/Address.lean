import CloudOps.Text.Numeral
import CloudOps.Text.Parts

/-!
# Numeric addresses

The two forms of numeric addresses that a host can have in place of a name.

* `isShort`: four bytes, or fewer numbers of which the last takes the bytes that are left. Each
  number may be written in base ten, eight or sixteen.
* `endsInNumeral`: whether labels are meant to be such an address.
* `isLong`: eight groups of sixteen bits, with two colons in place of groups of zeros.
-/

namespace CloudOps

namespace Address

/-- The number that digits of a base stand for. -/
def valueIn? (base : Nat) (digits : List Char) : Option Nat :=
  digits.foldlM (fun n c => do
    let digit ← Text.hexValue? c
    if digit < base then some (n * base + digit) else none) 0

/-- The number that a label stands for. A zero in front makes it octal, a zero and an x hexadecimal,
and there the digits may be missing. -/
def numeral? : List Char → Option Nat
  | [] => none
  | '0' :: 'x' :: digits => valueIn? 16 digits
  | '0' :: 'X' :: digits => valueIn? 16 digits
  | '0' :: c :: digits => valueIn? 8 (c :: digits)
  | label => valueIn? 10 label

/-- The labels without an empty one at the end. -/
def withoutRoot (labels : List (List Char)) : List (List Char) :=
  if labels.getLast? = some [] then labels.dropLast else labels

/-- The labels are meant to be an address: the last one is a number, or digits at least. -/
def endsInNumeral (labels : List (List Char)) : Bool :=
  (withoutRoot labels).getLast?.any fun label =>
    (!label.isEmpty && label.all Text.isDigit) || (numeral? label).isSome

/-- The numbers make four bytes. -/
def fitsFourBytes (numbers : List Nat) : Bool :=
  numbers.length ≤ 4 && numbers.dropLast.all (· < 256) &&
    numbers.getLast?.any (· < Nat.pow 256 (5 - numbers.length))

/-- The labels are an address of four bytes. -/
def isShort (labels : List (List Char)) : Bool :=
  ((withoutRoot labels).mapM numeral?).any fitsFourBytes

/-- A byte in base ten without zeros in front. -/
def isDecimalByte (text : List Char) : Bool :=
  (Text.readNat? text).any (· < 256) && (text.length = 1 || text.head? ≠ some '0')

/-- Four bytes with full stops between them. -/
def isDottedQuad (text : List Char) : Bool :=
  let bytes := Text.pieces '.' text
  bytes.length = 4 && bytes.all isDecimalByte

/-- One to four digits in base sixteen. -/
def isGroup (text : List Char) : Bool :=
  !text.isEmpty && text.length ≤ 4 && text.all fun c => (Text.hexValue? c).isSome

/-- How many groups of sixteen bits a text of groups between colons holds. Four bytes may stand for
the last two where `mayEndDotted` says so. -/
def groupCount? (mayEndDotted : Bool) (text : List Char) : Option Nat :=
  let groups := Text.pieces ':' text
  if text.isEmpty then some 0
  else if groups.all isGroup then some groups.length
  else if mayEndDotted && groups.dropLast.all isGroup && groups.getLast?.any isDottedQuad then
    some (groups.length + 1)
  else none

/-- What stands before and behind the first two colons in a row. -/
def cutAtGap : List Char → Option (List Char × List Char)
  | [] => none
  | ':' :: ':' :: behind => some ([], behind)
  | c :: rest => (cutAtGap rest).map fun (before, behind) => (c :: before, behind)

/-- A text is an address of eight groups. Two colons stand for at least one group of zeros. -/
def isLong (text : List Char) : Bool :=
  match cutAtGap text with
  | none => groupCount? true text = some 8
  | some (before, behind) =>
    match groupCount? false before, groupCount? true behind with
    | some early, some late => early + late < 8
    | _, _ => false

end Address

end CloudOps
