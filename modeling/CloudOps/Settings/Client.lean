/-!
# Settings of a client

What a command line says about the services to talk to. Where it says nothing, the environment and
the profile file decide.
-/

namespace CloudOps

/-- The region when nothing else names one. -/
def defaultRegion : String := "us-west-2"

/-- How many seconds a wait may last by default: twenty polls, five seconds apart. -/
def defaultMaxWait : UInt64 := 100

/-- Settings of a client. -/
structure ClientSettings where
  region : Option String
  profile : Option String
  endpointUrl : Option String
  /-- How many seconds a wait may last. -/
  maxWait : UInt64
  deriving DecidableEq, Repr

/-- Settings that leave everything open. -/
def ClientSettings.default : ClientSettings := ⟨none, none, none, defaultMaxWait⟩

end CloudOps
