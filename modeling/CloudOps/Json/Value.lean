import CloudOps.Json.Scan

/-!
# JSON values

* `Json`: a value. The members of an object stay in the order in which they are written.
* `Json.parse`: the value that a text holds, or why it holds none. Arrays and objects may be nested
  `depthLimit` deep.
* `Json.render`: the compact text of a value. In strings, quotes, backslashes and control
  characters are escaped and nothing else is.
-/

namespace CloudOps

/-- A JSON value. -/
inductive Json
  | null
  | boolean (value : Bool)
  | number (value : Json.Number)
  | string (value : String)
  | array (items : List Json)
  | object (members : List (String × Json))

namespace Json

/-! ## Reading -/

/-- How deep arrays and objects may be nested. -/
def depthLimit : Nat := 127

/-- What reads a value and gives it with the characters behind it. -/
abbrev Reader (α : Type) := List Char → Except Stop (α × List Char)

/-- The next item of an array, or none at the closing bracket, which is left. The flag says
whether the item is the first. -/
def nextItem (first : Bool) (text : List Char) : Except Stop (Option (List Char)) :=
  match skipBlanks text with
  | [] => Cause.unfinishedList.before []
  | ']' :: _ => .ok none
  | c :: rest =>
    if first then .ok (some (c :: rest))
    else if c = ',' then
      match skipBlanks rest with
      | [] => Cause.unfinishedValue.before []
      | ']' :: more => Cause.trailingComma.on (']' :: more)
      | more => .ok (some more)
    else Cause.listCommaExpected.on (c :: rest)

/-- What follows the closing bracket of an array of which no more items are wanted. -/
def endItems (text : List Char) : Except Stop (List Char) :=
  match skipBlanks text with
  | [] => Cause.unfinishedList.before []
  | ']' :: rest => .ok rest
  | ',' :: rest =>
    match skipBlanks rest with
    | ']' :: more => Cause.trailingComma.on (']' :: more)
    | more => Cause.trailingCharacters.on more
  | rest => Cause.trailingCharacters.on rest

/-- The items of an array up to its closing bracket, put behind those read before, which are in
reverse. The count bounds the items; a text has no more of them than characters. -/
def readItems (readItem : Reader Json) : Nat → List Json → Reader (List Json)
  | 0, _, _ => Cause.unfinishedList.before []
  | count + 1, before, text => do
    match ← nextItem before.isEmpty text with
    | none => return (before.reverse, ← endItems text)
    | some opened =>
      let (item, after) ← readItem opened
      readItems readItem count (item :: before) after

/-- What follows the colon behind a key. -/
def readColon (text : List Char) : Except Stop (List Char) :=
  match skipBlanks text with
  | [] => Cause.unfinishedObject.before []
  | ':' :: rest => .ok rest
  | rest => Cause.colonExpected.on rest

/-- The next key of an object with its opening quote read, or none at the closing brace, which is
left. The flag says whether the key is the first. -/
def nextKey (first : Bool) (text : List Char) : Except Stop (Option (List Char)) :=
  match skipBlanks text with
  | [] => Cause.unfinishedObject.before []
  | '\x7d' :: _ => .ok none
  | c :: rest =>
    if first then
      if c = '"' then .ok (some rest) else Cause.keyExpected.on (c :: rest)
    else if c = ',' then
      match skipBlanks rest with
      | [] => Cause.unfinishedValue.before []
      | '"' :: more => .ok (some more)
      | '\x7d' :: more => Cause.trailingComma.on ('\x7d' :: more)
      | more => Cause.keyExpected.on more
    else Cause.objectCommaExpected.on (c :: rest)

/-- What follows the closing brace of an object of which no more members are wanted. -/
def endMembers (text : List Char) : Except Stop (List Char) :=
  match skipBlanks text with
  | [] => Cause.unfinishedObject.before []
  | '\x7d' :: rest => .ok rest
  | ',' :: rest => Cause.trailingComma.on (',' :: rest)
  | rest => Cause.trailingCharacters.on rest

/-- The members of an object up to its closing brace, put behind those read before, which are in
reverse. The count bounds the members. -/
def readMembers (readItem : Reader Json) : Nat → List (String × Json) →
    Reader (List (String × Json))
  | 0, _, _ => Cause.unfinishedObject.before []
  | count + 1, before, text => do
    match ← nextKey before.isEmpty text with
    | none => return (before.reverse, ← endMembers text)
    | some opened =>
      let (key, behindKey) ← readString opened
      let behindColon ← readColon behindKey
      let (item, after) ← readItem behindColon
      readMembers readItem count ((key, item) :: before) after

/-- A value, with arrays and objects nested at most so deep. -/
def readValue : Nat → Reader Json
  | depth, text =>
    match skipBlanks text with
    | [] => Cause.unfinishedValue.before []
    | c :: rest =>
      if c = 'n' then (readWord ['u', 'l', 'l'] rest).map fun after => (.null, after)
      else if c = 't' then
        (readWord ['r', 'u', 'e'] rest).map fun after => (.boolean true, after)
      else if c = 'f' then
        (readWord ['a', 'l', 's', 'e'] rest).map fun after => (.boolean false, after)
      else if c = '-' ∨ Text.isDigit c = true then
        (readNumber (c :: rest)).map fun (value, after) => (.number value, after)
      else if c = '"' then
        (readString rest).map fun (value, after) => (.string value, after)
      else if c = '[' then
        match depth with
        | 0 => Cause.tooDeep.on (c :: rest)
        | inner + 1 =>
          (readItems (readValue inner) (rest.length + 1) [] rest).map fun (items, after) =>
            (.array items, after)
      else if c = '\x7b' then
        match depth with
        | 0 => Cause.tooDeep.on (c :: rest)
        | inner + 1 =>
          (readMembers (readValue inner) (rest.length + 1) [] rest).map fun (members, after) =>
            (.object members, after)
      else Cause.valueExpected.on (c :: rest)

/-- The failure of a value that is not of the expected kind. Words, numbers and strings are read to
their end, arrays and objects are not. -/
def wrongType {α : Type} (expected : String) (text : List Char) : Except Stop α :=
  match text with
  | [] => Cause.valueExpected.on []
  | c :: rest =>
    if c = 'n' then (readWord ['u', 'l', 'l'] rest).bind fun after =>
      (Cause.wrongType .null expected).before after
    else if c = 't' then (readWord ['r', 'u', 'e'] rest).bind fun after =>
      (Cause.wrongType (.boolean true) expected).before after
    else if c = 'f' then (readWord ['a', 'l', 's', 'e'] rest).bind fun after =>
      (Cause.wrongType (.boolean false) expected).before after
    else if c = '-' ∨ Text.isDigit c = true then
      (readNumber text).bind fun (value, after) =>
        (Cause.wrongType value.found expected).before after
    else if c = '"' then
      (readString rest).bind fun (value, after) =>
        (Cause.wrongType (.text value) expected).before after
    else if c = '[' then (Cause.wrongType .sequence expected).before text
    else if c = '\x7b' then (Cause.wrongType .map expected).before text
    else Cause.valueExpected.on text

/-- What a reader gives on a text, if nothing but blanks follows. -/
def readWhole {α : Type} (reader : Reader α) (text : List Char) : Except Stop α := do
  let (value, rest) ← reader text
  match skipBlanks rest with
  | [] => .ok value
  | more => Cause.trailingCharacters.on more

/-- What a reader gives on a text, with the position of a failure. -/
def runReader {α : Type} (reader : Reader α) (text : String) : Except Failure α :=
  (readWhole reader text.toList).mapError (Stop.locate text.toList)

/-- The value that a text holds. -/
def parse (text : String) : Except Failure Json := runReader (readValue depthLimit) text

/-! ## Writing -/

/-- A control character as a unicode escape. -/
def controlEscape (c : Char) : List Char :=
  ['\\', 'u'] ++ (Text.hexDigits (0x10000 + c.toNat)).drop 1

/-- A character of a string as it is written. -/
def writeChar (c : Char) : List Char :=
  if c = '"' then ['\\', '"']
  else if c = '\\' then ['\\', '\\']
  else if c = '\x08' then ['\\', 'b']
  else if c = '\t' then ['\\', 't']
  else if c = '\n' then ['\\', 'n']
  else if c = '\x0c' then ['\\', 'f']
  else if c = '\r' then ['\\', 'r']
  else if c.toNat < 0x20 then controlEscape c
  else [c]

/-- A string with its quotes. -/
def writeString (text : String) : List Char :=
  '"' :: (text.toList.flatMap writeChar ++ ['"'])

/-- A number as it is written. -/
def Number.write : Number → List Char
  | .natural n => n.repr.toList
  | .negative n => '-' :: n.repr.toList
  | .fractional x => x.toExponentText.toList

mutual

/-- The text of a value. -/
def write : Json → List Char
  | .null => ['n', 'u', 'l', 'l']
  | .boolean true => ['t', 'r', 'u', 'e']
  | .boolean false => ['f', 'a', 'l', 's', 'e']
  | .number value => value.write
  | .string value => writeString value
  | .array items => '[' :: (writeItems items ++ [']'])
  | .object members => '\x7b' :: (writeMembers members ++ ['\x7d'])

/-- The items of an array with commas between them. -/
def writeItems : List Json → List Char
  | [] => []
  | [item] => item.write
  | item :: more :: rest => item.write ++ ',' :: writeItems (more :: rest)

/-- The members of an object with commas between them. -/
def writeMembers : List (String × Json) → List Char
  | [] => []
  | [(key, item)] => writeString key ++ ':' :: item.write
  | (key, item) :: more :: rest =>
    writeString key ++ ':' :: (item.write ++ ',' :: writeMembers (more :: rest))

end

/-- The compact text of a value. -/
def render (value : Json) : String := String.ofList value.write

end Json

end CloudOps
