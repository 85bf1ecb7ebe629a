import CloudOps.CommandLine.Parameter

/-!
# Wrong command lines

* `UsageError`: why a command line cannot be carried out. Asking for help is one of the reasons.
* `UsageError.exitStatus`: the status that the command ends with.
-/

namespace CloudOps

/-- Why a command line is not carried out. -/
inductive UsageError
  /-- The help text was asked for. -/
  | helpRequested
  /-- No parameter has that name, or there is one operand too many. -/
  | unknownArgument (token : String)
  /-- A parameter was given twice. -/
  | givenTwice (p : Parameter)
  /-- An option stands without its value, or with one that is none. -/
  | missingValue (p : Parameter)
  /-- The value of an option cannot be read. -/
  | badValue (p : Parameter) (value : String)
  /-- A switch stands with a value. -/
  | unwantedValue (p : Parameter) (value : String)
  /-- Parameters that are needed were not given. -/
  | missing (parameters : List Parameter)
  deriving DecidableEq, Repr

namespace UsageError

/-- Help is no failure. -/
def exitStatus : UsageError → Nat
  | helpRequested => 0
  | _ => 2

/-- Help is a result, all else a diagnostic. -/
def isDiagnostic (e : UsageError) : Bool := e != helpRequested

/-- The arguments at fault, as they are named to the user. -/
def culprits : UsageError → Option (List String)
  | helpRequested => none
  | unknownArgument token => some [token]
  | givenTwice p => some [p.usage]
  | missingValue p => some [p.usage]
  | badValue p _ => some [p.usage]
  | unwantedValue p _ => some [p.usage]
  | missing parameters => some (parameters.map Parameter.usage)

/-- The value at fault. A missing value is an empty one. -/
def value? : UsageError → Option String
  | missingValue _ => some ""
  | badValue _ value => some value
  | unwantedValue _ value => some value
  | _ => none

end UsageError

end CloudOps
