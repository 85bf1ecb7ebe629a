import CloudOps.Number.Shortest
import CloudOps.Text.Quoted

/-!
# Why a JSON text cannot be read, and where

* `Cause`: what is wrong, with its wording in `Cause.text`.
* `Stop`: a cause with the characters that were still to be read, as the readers raise it.
* `Failure`: a cause with its line and column; `Stop.locate` finds them. Lines count from one,
  columns count bytes.
-/

namespace CloudOps

namespace Json

/-- A value as a message names it. -/
inductive Found
  | null
  | boolean (value : Bool)
  | integer (value : Int)
  | fractional (value : Binary64)
  | text (value : String)
  | sequence
  | map
  deriving DecidableEq

/-- How a value is named. -/
def Found.describe : Found → String
  | .null => "null"
  | .boolean true => "boolean `true`"
  | .boolean false => "boolean `false`"
  | .integer n => "integer `" ++ Text.integerText n ++ "`"
  | .fractional x => "floating point `" ++ x.toExponentText ++ "`"
  | .text s => "string " ++ Text.quoted s
  | .sequence => "sequence"
  | .map => "map"

/-- What is wrong with a text. -/
inductive Cause
  /-- The text ends inside an array. -/
  | unfinishedList
  /-- The text ends inside an object. -/
  | unfinishedObject
  /-- The text ends inside a string. -/
  | unfinishedString
  /-- The text ends where a value should stand. -/
  | unfinishedValue
  | colonExpected
  | listCommaExpected
  | objectCommaExpected
  | identExpected
  | valueExpected
  | invalidEscape
  | invalidNumber
  | numberOutOfRange
  /-- A trailing surrogate stands first, or something else stands where one belongs. -/
  | loneSurrogate
  /-- A leading surrogate is not followed by an escape. -/
  | hexEscapeEnds
  | controlCharacter
  | keyExpected
  | trailingComma
  | trailingCharacters
  | tooDeep
  /-- A field of a record is given twice. -/
  | duplicateField (name : String)
  /-- A value of one kind stands where another is expected. -/
  | wrongType (found : Found) (expected : String)
  deriving DecidableEq

/-- The wording of a cause. -/
def Cause.text : Cause → String
  | .unfinishedList => "EOF while parsing a list"
  | .unfinishedObject => "EOF while parsing an object"
  | .unfinishedString => "EOF while parsing a string"
  | .unfinishedValue => "EOF while parsing a value"
  | .colonExpected => "expected `:`"
  | .listCommaExpected => "expected `,` or `]`"
  | .objectCommaExpected => "expected `,` or `\x7d`"
  | .identExpected => "expected ident"
  | .valueExpected => "expected value"
  | .invalidEscape => "invalid escape"
  | .invalidNumber => "invalid number"
  | .numberOutOfRange => "number out of range"
  | .loneSurrogate => "lone leading surrogate in hex escape"
  | .hexEscapeEnds => "unexpected end of hex escape"
  | .controlCharacter =>
    "control character (\\u0000-\\u001F) found while parsing a string"
  | .keyExpected => "key must be a string"
  | .trailingComma => "trailing comma"
  | .trailingCharacters => "trailing characters"
  | .tooDeep => "recursion limit exceeded"
  | .duplicateField name => "duplicate field `" ++ name ++ "`"
  | .wrongType found expected =>
    "invalid type: " ++ found.describe ++ ", expected " ++ expected

/-- A cause at the point where reading stopped. -/
structure Stop where
  cause : Cause
  /-- The characters that were not read yet. -/
  rest : List Char
  /-- How many bytes of them the position counts in, never past the end of the text. -/
  ahead : Nat
  deriving DecidableEq

/-- A cause with its position in the text. -/
structure Failure where
  cause : Cause
  line : Nat
  column : Nat
  deriving DecidableEq

/-- The text of a failure. -/
def Failure.message (failure : Failure) : String :=
  failure.cause.text ++ " at line " ++ failure.line.repr ++ " column " ++ failure.column.repr

/-- The length of some characters in UTF-8. -/
def byteCount (text : List Char) : Nat :=
  text.foldr (fun char count => char.utf8Size + count) 0

/-- The line and the column after some bytes: the line breaks among them, and the bytes behind
the last of these. -/
def positionAfter (bytes : List UInt8) : Nat × Nat :=
  (1 + bytes.count 10, (bytes.reverse.takeWhile fun b => b != 10).length)

/-- Where in a text reading stopped. -/
def Stop.locate (text : List Char) (stop : Stop) : Failure :=
  let bytes := (String.ofList text).toUTF8.toList
  let place := positionAfter (bytes.take (bytes.length - byteCount stop.rest + stop.ahead))
  ⟨stop.cause, place.1, place.2⟩

/-- A stop in front of the characters that were not read yet. -/
def Cause.before {α : Type} (cause : Cause) (rest : List Char) : Except Stop α :=
  .error ⟨cause, rest, 0⟩

/-- A stop that counts the first byte of the characters that were not read yet. -/
def Cause.on {α : Type} (cause : Cause) (rest : List Char) : Except Stop α :=
  .error ⟨cause, rest, 1⟩

end Json

end CloudOps
