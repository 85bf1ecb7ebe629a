import CloudOps.Text.Numeral

/-!
# Bytes written with a percent sign

A percent sign and two digits in base sixteen stand for a byte.

* `percentDecodedBytes`: a list of bytes with those signs read. A percent sign without two digits
  stands for itself.
* `percentDecoded?`: a text with those signs read, if the bytes are text again.
-/

namespace CloudOps

namespace Text

/-- The byte that two digits stand for, written as ASCII. -/
def byteOfDigits? (high low : UInt8) : Option UInt8 := do
  let a ← hexValue? (Char.ofNat high.toNat)
  let b ← hexValue? (Char.ofNat low.toNat)
  return UInt8.ofNat (16 * a + b)

/-- A list of bytes with the signs for bytes read. -/
def percentDecodedBytes : List UInt8 → List UInt8
  | sign :: high :: low :: rest =>
    match if sign = 0x25 then byteOfDigits? high low else none with
    | some byte => byte :: percentDecodedBytes rest
    | none => sign :: percentDecodedBytes (high :: low :: rest)
  | short => short

/-- A text with the signs for bytes read, unless the bytes are not UTF-8. -/
def percentDecoded? (text : List Char) : Option (List Char) :=
  (String.fromUTF8? ⟨(percentDecodedBytes (String.ofList text).toUTF8.toList).toArray⟩).map
    String.toList

end Text

end CloudOps
