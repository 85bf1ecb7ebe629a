import CloudOps.CommandLine.Run
import CloudOps.Service.Script

/-!
# The command line

The first argument is the name of a command, the others are its own. No network is attached here:
every request ends without an answer.
-/

namespace CloudOps

namespace Terminal

/-- The variables that are looked up. -/
def variableNames : List String :=
  ["AWS_PROFILE", "AWS_REGION", "AWS_DEFAULT_REGION", "AWS_ENDPOINT_URL",
    "AWS_IGNORE_CONFIGURED_ENDPOINT_URLS"]

/-- The text of the profile file; empty if there is none. -/
def readProfileText : IO String := do
  let named ← IO.getEnv "AWS_CONFIG_FILE"
  let home ← IO.getEnv "HOME"
  let path := named.getD (home.getD "" ++ "/.aws/config")
  try IO.FS.readFile path catch _ => return ""

/-- The environment of the process. -/
def readEnvironment : IO Environment := do
  let values ← variableNames.mapM fun name => do
    return (← IO.getEnv name).map fun value => (name, value)
  return ⟨values.filterMap id, ← readProfileText⟩

/-- Why a file could not be read. A failure to open it names the file; a folder is opened, and the
failure to read it names none. -/
def fileFailure : IO.Error → Files.Failure
  | .inappropriateType none .. => .isFolder
  | .inappropriateType (some _) .. => .notFolder
  | .invalidArgument _ 22 _ => .nulInName
  | .invalidArgument .. => .nameTooLong
  | _ => .notFound

/-- The contents of a file. -/
def readContents (path : String) : IO (Except Files.Failure ByteArray) := do
  try return .ok (← IO.FS.readBinFile path) catch e => return .error (fileFailure e)

/-- What a command finds around it. The file that it stores, if any, has been read. -/
def readSurroundings (invocation : Invocation) : IO Surroundings := do
  let contents ← match invocation with
    | .uploadFile options => readContents options.file
    | _ => pure (.error .notFound)
  return ⟨← readEnvironment, "none", 1, fun _ => contents⟩

/-- Carries out a command and gives its exit status. -/
def carryOut (invocation : Invocation) : IO UInt32 := do
  let job := invocation.job (← readSurroundings invocation)
  let outcome := job.outcome (job.body.run (silence "no network") ()).ending
  IO.print outcome.output
  if let some message := outcome.closing.diagnostic then
    IO.eprintln (message.text?.getD (message.cause?.getD "failed"))
  return outcome.closing.status.toUInt32

/-- Reports a wrong command line and gives its exit status. -/
def report (command : Command) (e : UsageError) : IO UInt32 := do
  let usage := " ".intercalate (command.name :: command.parameters.map Parameter.usage)
  let lines := match e.culprits with
    | none => [usage]
    | some culprits => ["error: " ++ ", ".intercalate culprits, usage]
  let text := "\n".intercalate lines
  if e.isDiagnostic then IO.eprintln text else IO.println text
  return e.exitStatus.toUInt32

/-- Carries out a command line and gives its exit status. -/
def run : List String → IO UInt32
  | [] => do
    IO.eprintln ("commands: " ++ ", ".intercalate (Command.all.map Command.name))
    return 2
  | name :: texts =>
    match Command.ofName? name with
    | none => do
      IO.eprintln ("no such command: " ++ name)
      return 2
    | some command =>
      match Invocation.parse command texts with
      | .error e => report command e
      | .ok invocation => carryOut invocation

end Terminal

end CloudOps

/-- The program. -/
def main (args : List String) : IO UInt32 := CloudOps.Terminal.run args
