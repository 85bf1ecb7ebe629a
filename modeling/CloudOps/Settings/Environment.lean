import CloudOps.Settings.Client
import CloudOps.Settings.ProfileFile
import CloudOps.Url

/-!
# Where the services are

What is left open by the settings of a client is looked up in the environment: its variables and
the profile file of the user.

* `Environment.region`: the region of the settings, else of a variable, else of the profile that
  the environment selects, else the default one. The profile of the settings takes no part.
* `Environment.endpoint?`: the endpoint of the settings, else of a variable, else of the profile
  that the settings or the environment select.

A value that is set counts even when it is empty.
-/

namespace CloudOps

/-- The variables of the environment and the text of the profile file. -/
structure Environment where
  bindings : List (String × String)
  profileText : String
  deriving DecidableEq, Repr

namespace Environment

/-- An environment that says nothing. -/
def empty : Environment := ⟨[], ""⟩

/-- The value of a variable. -/
def value? (env : Environment) (name : String) : Option String := env.bindings.lookup name

/-- The profile file. One that cannot be read is as good as none. -/
def profiles (env : Environment) : ProfileFile := (ProfileFile.read? env.profileText).getD []

/-- The name of the profile that the environment selects. -/
def selectedProfile (env : Environment) : String :=
  (env.value? "AWS_PROFILE").getD ProfileFile.defaultProfile

/-! ## The region -/

/-- The region of a profile. One without a region takes that of its source, and so on; the names
already passed are not passed again. -/
def regionAlong (file : ProfileFile) : Nat → String → Option String
  | 0, _ => none
  | steps + 1, profile =>
    match file.property? profile "region" with
    | some region => some region
    | none => (file.property? profile "source_profile").bind (regionAlong file steps)

/-- The region of a profile. No chain of sources is longer than the file without passing a profile
twice. -/
def profileRegion? (env : Environment) (profile : String) : Option String :=
  regionAlong env.profiles (env.profiles.length + 1) profile

/-- The region that the variables name. -/
def namedRegion? (env : Environment) : Option String :=
  (env.value? "AWS_REGION").or (env.value? "AWS_DEFAULT_REGION")

/-- The region to use. -/
def region (env : Environment) (settings : ClientSettings) : String :=
  (settings.region.or (env.namedRegion?.or (env.profileRegion? env.selectedProfile))).getD
    defaultRegion

/-! ## The endpoint -/

/-- The value of a variable, else of a property of the profile of the settings or the
environment. -/
def configured? (env : Environment) (settings : ClientSettings) (name key : String) :
    Option String :=
  (env.value? name).or
    (env.profiles.property? (settings.profile.getD env.selectedProfile) key)

/-- Whether only the settings may name an endpoint. -/
def ignoresConfiguredEndpoint (env : Environment) (settings : ClientSettings) : Bool :=
  (env.configured? settings "AWS_IGNORE_CONFIGURED_ENDPOINT_URLS"
    "ignore_configured_endpoint_urls").any fun value => value.toLower == "true"

/-- The endpoint to use in place of the usual one. One that the environment names has to be a
URL. -/
def endpoint? (env : Environment) (settings : ClientSettings) : Option String :=
  match settings.endpointUrl with
  | some url => some url
  | none =>
    if env.ignoresConfiguredEndpoint settings then none
    else (env.configured? settings "AWS_ENDPOINT_URL" "endpoint_url").filter isUrl

end Environment

end CloudOps
