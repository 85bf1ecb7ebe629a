import CloudOps.CommandLine.Usage
import CloudOps.Text.Parts

/-!
# Reading a command line

A command line is read token by token. Options are `--name value`, `--name=value`, `-n value`,
`-nvalue` or `-n=value`, switches are `--name` or `-n`, several letters may share a dash, and
everything behind `--` is an operand.

* `Reading`: what has been read. The value of the last option is checked when the next parameter
  comes or the line ends, so a name that is unknown is reported before a value that is wrong.
* `Reading.token`: one more token.
* `Arguments.parse`: the arguments of a whole line, complete with what a command requires.
-/

namespace CloudOps

/-- What has been read of a command line. -/
structure Reading where
  given : Arguments
  /-- The parameter that was read last, with its value if that has come. -/
  pending : Option (Parameter × Option String)
  /-- The operands that may still come. -/
  operands : List Parameter
  /-- Whether all further tokens are operands. -/
  operandsOnly : Bool

namespace Reading

/-- Nothing has been read. -/
def start (parameters : List Parameter) : Reading :=
  ⟨.none, none, parameters.filter fun p => p.shape = .operand, false⟩

/-- A parameter gets a value. -/
def assign (r : Reading) (p : Parameter) (text : String) : Except UsageError Reading :=
  if r.given.has p then .error (.givenTwice p)
  else if !p.accepts text then .error (.missingValue p)
  else match p.read? text with
    | none => .error (.badValue p text)
    | some value => .ok { r with given := r.given.set p value }

/-- The pending parameter gets its value. -/
def settle (r : Reading) : Except UsageError Reading :=
  match r.pending with
  | none => .ok r
  | some (p, none) => .error (.missingValue p)
  | some (p, some text) => { r with pending := none }.assign p text

/-- A switch is given. -/
def switch (r : Reading) (p : Parameter) : Except UsageError Reading := do
  let settled ← r.settle
  if p = .help then .error .helpRequested else settled.assign p ""

/-- An option is given, with its value or in front of it. -/
def option (r : Reading) (p : Parameter) (value? : Option String) : Except UsageError Reading := do
  let settled ← r.settle
  match value? with
  | some text => settled.assign p text
  | none => return { settled with pending := some (p, none) }

/-- An operand is given. -/
def operand (r : Reading) (text : String) : Except UsageError Reading :=
  match r.operands with
  | [] => .error (.unknownArgument text)
  | p :: others => do
    let settled ← r.settle
    return { settled with pending := some (p, some text), operands := others }

/-- A token that names nothing: a value if an option waits for one, else an operand. -/
def plain (r : Reading) (text : String) : Except UsageError Reading :=
  match r.pending with
  | some (p, none) => .ok { r with pending := some (p, some text) }
  | _ => r.operand text

/-- A token with two dashes in front, which are left out here. -/
def long (parameters : List Parameter) (r : Reading) (text : List Char) :
    Except UsageError Reading :=
  let (chars, attached) := Text.cutAt '=' text
  let name := String.ofList chars
  let value? := attached.map String.ofList
  match parameters.find? fun p => p.long? = some name with
  | none => .error (.unknownArgument ("--" ++ name))
  | some p =>
    if p.shape = .option then r.option p value?
    else match value? with
      | some value => .error (.unwantedValue p value)
      | none => r.switch p

/-- What stands behind the letter of an option: its value, perhaps behind an equals sign. -/
def attachedValue? : List Char → Option String
  | [] => none
  | '=' :: rest => some (String.ofList rest)
  | rest => some (String.ofList rest)

/-- The letters of a token with one dash in front. -/
def letters (parameters : List Parameter) (r : Reading) : List Char → Except UsageError Reading
  | [] => .ok r
  | c :: rest =>
    match parameters.find? fun p => p.short? = some c with
    | none => .error (.unknownArgument (String.ofList ['-', c]))
    | some p =>
      if p.shape = .option then r.option p (attachedValue? rest)
      else do
        let switched ← r.switch p
        letters parameters switched rest

/-- One more token. A single dash is a value like any other. -/
def token (parameters : List Parameter) (r : Reading) (text : String) :
    Except UsageError Reading :=
  if r.operandsOnly then r.operand text
  else match text.toList with
    | ['-'] => r.plain text
    | ['-', '-'] => .ok { r with operandsOnly := true }
    | '-' :: '-' :: rest => r.long parameters rest
    | '-' :: rest => r.letters parameters rest
    | _ => r.plain text

/-- Several more tokens. -/
def tokens (parameters : List Parameter) (r : Reading) (texts : List String) :
    Except UsageError Reading :=
  texts.foldlM (fun r text => r.token parameters text) r

end Reading

namespace Arguments

/-- Whether a parameter is needed and not given. -/
def lacks (parameters : List Parameter) (arguments : Arguments) (p : Parameter) : Bool :=
  !arguments.has p &&
    (p.isRequired || parameters.any fun q => arguments.has q && q.companion? = some p)

/-- The arguments of a command line. -/
def parse (parameters : List Parameter) (texts : List String) : Except UsageError Arguments := do
  let read ← (Reading.start parameters).tokens parameters texts
  let settled ← read.settle
  match parameters.filter (settled.given.lacks parameters) with
  | [] => return settled.given
  | lacking => .error (.missing lacking)

end Arguments

end CloudOps
