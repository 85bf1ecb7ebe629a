import CloudOps.Program

/-!
# How commands end

* `chainText`: the reasons of a failure on one line.
* `Closing`: the exit status of a command, with its diagnostic.
* `Outcome`: everything that a command leaves behind.
-/

namespace CloudOps

/-- The reasons of a failure on one line, the outermost first. -/
def chainText (reasons : List String) : String := ": ".intercalate reasons

/-- The exit status of a command, and the diagnostic if it failed. -/
structure Closing where
  status : Nat
  diagnostic : Option Message
  deriving DecidableEq

namespace Closing

/-- The command did what was asked. -/
def passed : Closing := ⟨0, none⟩

/-- The command failed. -/
def failed (diagnostic : Message) : Closing := ⟨1, some diagnostic⟩

/-- The command could not go on. -/
def broken : Closing := ⟨101, none⟩

/-- The end of a command that failed for these reasons, or did not if there are none. -/
def ofReasons (reasons : List String) : Closing :=
  if reasons.isEmpty then passed else failed (.text (chainText reasons))

/-- Whether the command succeeded. -/
def succeeded (closing : Closing) : Bool := closing.status == 0

/-- The log entry of a failure, where its wording is fixed. -/
def entry? (closing : Closing) : Option LogEntry :=
  (closing.diagnostic.bind Message.text?).map fun text => ⟨.error, text⟩

end Closing

/-- What a command leaves behind. -/
structure Outcome where
  /-- What it printed as its result. -/
  output : String
  closing : Closing
  deriving DecidableEq

end CloudOps
