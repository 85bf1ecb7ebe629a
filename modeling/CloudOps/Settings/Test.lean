import CloudOps.Files
import CloudOps.Generator
import CloudOps.Json.Skip

/-!
# Settings of tests

Settings for tests that talk to a real account, read from a JSON file.

* `TestSettings.decode`: the settings of a JSON text: an object with three optional fields, or an
  array with the fields in order. A field is a string or null and stands at most once; members
  with other names are passed over.
* `TestSettings.ofFile`: the settings of a file.
* `TestSettings.resolve`: the settings with every blank filled in. A bucket that has no name gets
  one that a seed determines.
-/

namespace CloudOps

/-- Settings as they are given. -/
structure TestSettings where
  bucket : Option String
  filename : Option String
  key : Option String
  deriving DecidableEq, Repr

/-- Settings without a blank. -/
structure ResolvedTestSettings where
  bucket : String
  /-- The name of the bucket was made up, so the test owns the bucket and has to remove it. -/
  generatedBucket : Bool
  filename : String
  key : String
  deriving DecidableEq, Repr

namespace TestSettings

/-- The fields of the settings. -/
inductive Field
  | bucket
  | filename
  | key
  deriving DecidableEq, Repr

/-- The name of a field in the file. -/
def Field.name : Field → String
  | .bucket => "Bucket"
  | .filename => "Filename"
  | .key => "Key"

/-- The field with a name. -/
def Field.ofName? (name : String) : Option Field :=
  if name = "Bucket" then some .bucket
  else if name = "Filename" then some .filename
  else if name = "Key" then some .key
  else none

/-- The fields read so far. A field that was null is present and has no text. -/
structure Draft where
  bucket : Option (Option String)
  filename : Option (Option String)
  key : Option (Option String)
  deriving DecidableEq, Repr

/-- No field read. -/
def Draft.blank : Draft := ⟨none, none, none⟩

/-- What was read for a field. -/
def Draft.get? (draft : Draft) : Field → Option (Option String)
  | .bucket => draft.bucket
  | .filename => draft.filename
  | .key => draft.key

/-- The draft with a field. -/
def Draft.set (draft : Draft) (field : Field) (value : Option String) : Draft :=
  match field with
  | .bucket => { draft with bucket := some value }
  | .filename => { draft with filename := some value }
  | .key => { draft with key := some value }

/-- The settings of a draft. A field that was not read is the same as one that is null. -/
def Draft.settings (draft : Draft) : TestSettings :=
  ⟨draft.bucket.join, draft.filename.join, draft.key.join⟩

/-! ## Reading -/

/-- A string or null. -/
def readOptionalText : Json.Reader (Option String) := fun text =>
  match Json.skipBlanks text with
  | [] => Json.Cause.unfinishedValue.before []
  | c :: rest =>
    if c = 'n' then (Json.readWord ['u', 'l', 'l'] rest).map fun after => (none, after)
    else if c = '"' then (Json.readString rest).map fun (value, after) => (some value, after)
    else Json.wrongType "a string" (c :: rest)

/-- The failure of a field that stands twice. Its position is behind the key, and behind the
closing brace if that comes next. -/
def duplicate {α : Type} (field : Field) (behindKey : List Char) : Except Json.Stop α :=
  let cause := Json.Cause.duplicateField field.name
  match Json.endMembers behindKey with
  | .ok rest => cause.before rest
  | .error _ => cause.before (Json.skipBlanks behindKey)

/-- The members of an object up to its closing brace. The count bounds them; the flag says whether
the next one is the first. -/
def readMembers : Nat → Bool → Draft → Json.Reader Draft
  | 0, _, _, _ => Json.Cause.unfinishedObject.before []
  | count + 1, first, draft, text => do
    match ← Json.nextKey first text with
    | none => return (draft, ← Json.endMembers text)
    | some opened =>
      let (name, behindKey) ← Json.readString opened
      match Field.ofName? name with
      | none =>
        let behindColon ← Json.readColon behindKey
        let after ← Json.skipValue behindColon
        readMembers count false draft after
      | some field =>
        if (draft.get? field).isSome then duplicate field behindKey
        else
          let behindColon ← Json.readColon behindKey
          let (value, after) ← readOptionalText behindColon
          readMembers count false (draft.set field value) after

/-- The items of an array as the values of the fields, as long as there are some. -/
def readItems : Bool → List Field → Draft → Json.Reader Draft
  | _, [], draft, text => do return (draft, ← Json.endItems text)
  | first, field :: fields, draft, text => do
    match ← Json.nextItem first text with
    | none => return (draft, ← Json.endItems text)
    | some opened =>
      let (value, after) ← readOptionalText opened
      readItems false fields (draft.set field value) after

/-- The settings as an object or an array. -/
def read : Json.Reader TestSettings := fun text =>
  match Json.skipBlanks text with
  | [] => Json.Cause.unfinishedValue.before []
  | c :: rest =>
    if c = '\x7b' then
      (readMembers (rest.length + 1) true .blank rest).map fun (draft, after) =>
        (draft.settings, after)
    else if c = '[' then
      (readItems true [.bucket, .filename, .key] .blank rest).map fun (draft, after) =>
        (draft.settings, after)
    else Json.wrongType "struct TestSettings" (c :: rest)

/-- The settings that a text holds. -/
def decode (text : String) : Except Json.Failure TestSettings := Json.runReader read text

/-- The settings that a file holds. -/
def ofFile (files : Files) (path : String) : Except Error TestSettings :=
  match files.readText path with
  | .error failure => .error (.io (.text failure.text))
  | .ok text => (decode text).mapError Error.json

/-! ## Filling in -/

/-- The name of the bucket for a seed: the bytes of the first number that the seed gives. -/
def generatedBucketName (seed : UInt64) : String :=
  "test-bucket-" ++ littleEndianHex (Generator.ofSeed seed).next.1

/-- A text that is given and not empty. -/
def given (value : Option String) : Option String := value.filter fun text => !text.isEmpty

/-- What stands for a missing name of a file or a key. -/
def defaultName : String := "test.txt"

/-- The settings with every blank filled in. -/
def resolve (settings : TestSettings) (seed : UInt64) : ResolvedTestSettings :=
  { bucket := (given settings.bucket).getD (generatedBucketName seed)
    generatedBucket := (given settings.bucket).isNone
    filename := (given settings.filename).getD defaultName
    key := (given settings.key).getD defaultName }

end TestSettings

end CloudOps
