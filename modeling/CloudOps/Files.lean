import CloudOps.Error

/-!
# Files

A folder as a value, and what is found in it under a path.

* `Files.read`: the bytes of a file, or why there are none.
* `Files.Failure.text`: the wording of such a failure.
* `Body`: the body of an object that is sent, and `Body.ofFile`: the one that is made of a file.
-/

namespace CloudOps

/-- A file with its bytes, or a folder with named entries. -/
inductive FileEntry
  | file (bytes : ByteArray)
  | folder (entries : List (String × FileEntry))

/-- The entries of a folder. -/
abbrev Files := List (String × FileEntry)

namespace Files

/-- Why a file cannot be read. -/
inductive Failure
  | notFound
  | notFolder
  | isFolder
  | nameTooLong
  | nulInName
  /-- A text was wanted and the bytes are not UTF-8. -/
  | notText
  deriving DecidableEq, Repr

/-- The wording of a failure. -/
def Failure.text : Failure → String
  | .notFound => "No such file or directory (os error 2)"
  | .notFolder => "Not a directory (os error 20)"
  | .isFolder => "Is a directory (os error 21)"
  | .nameTooLong => "File name too long (os error 36)"
  | .nulInName => "file name contained an unexpected NUL byte"
  | .notText => "stream did not contain valid UTF-8"

/-- The longest name of an entry, in bytes. -/
def nameLimit : Nat := 255

/-- A path has to be shorter than this, in bytes. -/
def pathLimit : Nat := 4096

/-- What is found behind the names of a path. The list holds the folders around the one that is
searched, the nearest first; outside of them nothing is known to exist. -/
def find (around : List Files) (here : Files) : List String → Except Failure FileEntry
  | [] => .ok (.folder here)
  | name :: names =>
    if nameLimit < name.utf8ByteSize then .error .nameTooLong
    else if name = "" ∨ name = "." then find around here names
    else if name = ".." then
      match around with
      | [] => find [] [] names
      | outer :: outside => find outside outer names
    else match here.lookup name with
      | none => .error .notFound
      | some (.folder entries) => find (here :: around) entries names
      | some (.file bytes) => if names.isEmpty then .ok (.file bytes) else .error .notFolder

/-- The bytes of the file under a path. A path that starts at the root leaves the folder. -/
def read (files : Files) (path : String) : Except Failure ByteArray :=
  if path.contains '\x00' then .error .nulInName
  else if path.isEmpty then .error .notFound
  else if pathLimit ≤ path.utf8ByteSize then .error .nameTooLong
  else
    let names := path.splitOn "/"
    let found := if path.front = '/' then find [] [] names else find [] files names
    match found with
    | .ok (.file bytes) => .ok bytes
    | .ok (.folder _) => .error .isFolder
    | .error e => .error e

/-- The text of the file under a path. -/
def readText (files : Files) (path : String) : Except Failure String :=
  match read files path with
  | .error e => .error e
  | .ok bytes =>
    match String.fromUTF8? bytes with
    | some text => .ok text
    | none => .error .notText

end Files

/-- The body of an object, as the call that sends it reads it. -/
inductive Body
  | whole (bytes : ByteArray)
  /-- It breaks off for this reason. -/
  | broken (reason : Message)

namespace Body

/-- Whether the body can be read to its end. -/
def isReadable : Body → Bool
  | whole _ => true
  | broken _ => false

/-- The body that is made of what is found at a path. It is read only when it is sent: a folder can
be opened as a file can, and breaks off. Where nothing can be opened there is no body. -/
def ofFile : Except Files.Failure ByteArray → Except Error Body
  | .ok bytes => .ok (whole bytes)
  | .error .isFolder => .ok (broken (.diagnostic none))
  | .error _ => .error (.io (.diagnostic none))

theorem ofFile_error {contents : Except Files.Failure ByteArray} {e : Error}
    (unopened : ofFile contents = .error e) : ∃ message, e = .io message := by
  unfold ofFile at unopened
  split at unopened
  · cases unopened
  · cases unopened
  · exact ⟨_, (Except.error.inj unopened).symm⟩

end Body

end CloudOps
