import CloudOps.Text.Parts

/-!
# Profile files

The file in which a user keeps settings under the names of profiles:

```text
[profile work]
region = eu-north-1   # a comment
```

* `ProfileLine.ofText`: what a line is by itself.
* `ProfileFile.read?`: the sections of a file. One bad line spoils the whole file.
* `ProfileFile.property?`: the value that a profile has for a key. Names of properties are lower
  case, several sections of a profile count as one, and the last value wins.
-/

namespace CloudOps

/-- A property with the lines of its value. -/
structure ProfileProperty where
  key : String
  /-- What stands behind the equals sign. -/
  first : String
  /-- The lines that go on with the value. -/
  more : List String
  deriving DecidableEq, Repr

/-- The value of a property. -/
def ProfileProperty.value (property : ProfileProperty) : String :=
  "\n".intercalate (property.first :: property.more)

/-- A section with its properties, the newest first. -/
structure ProfileSection where
  header : String
  properties : List ProfileProperty
  deriving DecidableEq, Repr

/-- A line by itself. -/
inductive ProfileLine
  | blank
  | header (text : String)
  | property (key value : String)
  /-- A line that begins with a blank. The flag says whether it has the form of a property. -/
  | continuation (text : String) (isProperty : Bool)
  | malformed
  deriving DecidableEq, Repr

namespace ProfileLine

/-- A character that begins a comment. -/
def beginsComment (c : Char) : Bool := c == '#' || c == ';'

/-- The text in front of a comment that begins anywhere. -/
def beforeComment (text : List Char) : List Char := text.takeWhile fun c => !beginsComment c

/-- The text in front of a comment that begins behind a blank. The flag says whether a blank comes
before the text. -/
def beforeSpacedComment : Bool → List Char → List Char
  | _, [] => []
  | afterBlank, c :: rest =>
    if afterBlank && beginsComment c then []
    else c :: beforeSpacedComment (Text.isBlankChar c) rest

/-- A text without spaces and tabs around it. -/
def trimmed (text : List Char) : List Char := Text.trimmed Text.isSpaceOrTab text

/-- Key and value of a property. -/
def property? (text : List Char) : Option (String × String) :=
  match Text.cutAt '=' (trimmed (beforeSpacedComment false (trimmed text))) with
  | (_, none) => none
  | (key, some value) =>
    let name := (trimmed key).map Char.toLower
    if name.isEmpty then none else some (String.ofList name, String.ofList (trimmed value))

/-- The text between the brackets of a header. -/
def header? (text : List Char) : Option String :=
  match trimmed (beforeComment (trimmed text)) with
  | '[' :: rest =>
    if rest.getLast? = some ']' then some (String.ofList rest.dropLast) else none
  | _ => none

/-- What a line is. -/
def ofText (text : List Char) : ProfileLine :=
  match text with
  | [] => .blank
  | c :: _ =>
    if beginsComment c || (trimmed text).isEmpty then .blank
    else if c = '[' then
      match header? text with
      | some name => .header name
      | none => .malformed
    else if Text.isSpaceOrTab c then
      .continuation (String.ofList (trimmed text)) (property? text).isSome
    else match property? text with
      | some (key, value) => .property key value
      | none => .malformed

end ProfileLine

/-- The sections of a profile file, the newest first. -/
abbrev ProfileFile := List ProfileSection

namespace ProfileFile

/-- The file with one more line. A property needs a section, a continuation needs a property, and
where the value of that property began empty it has to have the form of a property itself. -/
def add (file : ProfileFile) : ProfileLine → Option ProfileFile
  | .blank => some file
  | .malformed => none
  | .header text => some (⟨text, []⟩ :: file)
  | .property key value =>
    match file with
    | [] => none
    | current :: earlier =>
      some ({ current with properties := ⟨key, value, []⟩ :: current.properties } :: earlier)
  | .continuation text isProperty =>
    match file with
    | [] => none
    | current :: earlier =>
      match current.properties with
      | [] => none
      | property :: others =>
        if property.first.isEmpty && !isProperty then none
        else
          let longer := { property with more := property.more ++ [text] }
          some ({ current with properties := longer :: others } :: earlier)

/-- The sections of a text. -/
def read? (text : String) : Option ProfileFile :=
  (Text.lines text.toList).foldlM (fun file line => add file (ProfileLine.ofText line)) []

/-- A character that the name of a profile may have. -/
def isNameChar (c : Char) : Bool := c.isAlphanum || c ∈ ['_', '-', '/', '.', '%', '@', ':', '+']

/-- The profile that nobody has to name. -/
def defaultProfile : String := "default"

/-- Which profile a header is for. -/
inductive Heading
  /-- The word for the default profile alone. -/
  | plainDefault
  /-- The word `profile` and a name. -/
  | named (name : String)
  | other
  deriving DecidableEq, Repr

/-- The heading that a header is. The first space or tab ends the word in front of the name; blanks
of any script around either of them do not count. -/
def Heading.ofText (header : String) : Heading :=
  let text := ProfileLine.trimmed header.toList
  let word := Text.trimmed Text.isBlankChar (text.takeWhile fun c => !Text.isSpaceOrTab c)
  match text.dropWhile fun c => !Text.isSpaceOrTab c with
  | [] => if word = defaultProfile.toList then .plainDefault else .other
  | behind =>
    let name := Text.trimmed Text.isBlankChar behind
    if word = "profile".toList && name.all isNameChar then .named (String.ofList name) else .other

/-- The headings that count for a profile. The default profile may be written with or without the
word `profile`; where both are found, the one with it counts. -/
def headingOf (file : ProfileFile) (profile : String) : Heading :=
  if profile = defaultProfile ∧
      ¬ file.any (fun part => Heading.ofText part.header = .named profile) then .plainDefault
  else .named profile

/-- The properties of a profile, the newest first. -/
def propertiesOf (file : ProfileFile) (profile : String) : List ProfileProperty :=
  (file.filter fun part => Heading.ofText part.header = headingOf file profile).flatMap
    ProfileSection.properties

/-- The value that a profile has for a key. -/
def property? (file : ProfileFile) (profile key : String) : Option String :=
  ((propertiesOf file profile).find? fun property => property.key = key).map
    ProfileProperty.value

end ProfileFile

end CloudOps
