import CloudOps.CommandLine.Command
import CloudOps.Proofs.CommandLine.Settings
import Mathlib.Data.List.Perm.Basic

/-!
# Command lines are read back

Whatever the options of a command are, they can be written on a command line.

* `Invocation.tokens`, `Invocation.tail`: the tokens of the options, and what follows them.
* `Invocation.writable`: the options make up a whole command line, if a file has a path and an
  account comes with the switch that it belongs to.
* `Invocation.parse_tokens`: in any order, the tokens give back the options.
-/

namespace CloudOps

/-- The values that the settings of a client give. -/
def ClientSettings.value? (client : ClientSettings) : (p : Parameter) → Option p.Value
  | .region => client.region
  | .profile => client.profile
  | .endpointUrl => client.endpointUrl
  | .maxWaitSecs => some client.maxWait
  | _ => none

namespace Invocation

/-- The command. -/
def command : Invocation → Command
  | listBuckets _ => .listBuckets
  | listObjects _ => .listObjects
  | deleteBucket _ => .deleteBucket
  | setBucketPolicy _ => .setBucketPolicy
  | uploadFile _ => .uploadFile
  | readItem _ => .readItem
  | listParameterGroups _ => .listParameterGroups
  | describeClusters _ => .describeClusters

/-- The value of a switch. -/
def switched (on : Bool) : Option Unit := if on then some () else none

/-- The values that the options give. -/
def value? : Invocation → (p : Parameter) → Option p.Value
  | listObjects options, .bucket => some options.bucket
  | listObjects options, .verbose => switched options.verbose
  | deleteBucket options, .bucket => some options.bucket
  | deleteBucket options, .empty => switched options.empty
  | setBucketPolicy options, .bucketOperand => some options.bucket
  | setBucketPolicy options, .directoryAdmin => switched options.directoryAdmin
  | setBucketPolicy options, .accountId => options.accountId
  | uploadFile options, .bucket => some options.bucket
  | uploadFile options, .key => some options.key
  | uploadFile options, .file => some options.file
  | readItem options, .table => some options.table
  | readItem options, .year => some options.year
  | readItem options, .title => some options.title
  | listParameterGroups options, .verbose => switched options.verbose
  | describeClusters options, .verbose => switched options.verbose
  | invocation, p => invocation.client.value? p

/-- The options as arguments. -/
def arguments (invocation : Invocation) : Arguments := ⟨invocation.value?⟩

/-- The tokens of the options: `--name=value` for each value, `--name` for each switch. -/
def tokens (invocation : Invocation) : List String :=
  (invocation.arguments.named invocation.command.parameters).map Setting.token

/-- What follows them: a bucket without a name in front, behind `--`. -/
def tail : Invocation → List String
  | setBucketPolicy options => ["--", options.bucket]
  | _ => []

/-- The options can be written: a file has a path, and an account comes with its switch. -/
def Expressible : Invocation → Prop
  | setBucketPolicy options => options.accountId.isSome = true ↔ options.directoryAdmin = true
  | uploadFile options => options.file ≠ ""
  | _ => True

@[simp] theorem isSome_switched (on : Bool) : (switched on).isSome = on := by
  cases on <;> rfl

/-- Options are what their arguments say. -/
theorem ofArguments_arguments (invocation : Invocation) :
    ofArguments invocation.arguments invocation.command = invocation := by
  cases invocation <;>
    simp [ofArguments, arguments, command, value?, Arguments.has, Arguments.client,
      ClientSettings.value?, client]

/-- What a command does not know is not given. -/
theorem value?_of_unknown {invocation : Invocation} {p : Parameter}
    (unknown : p ∉ invocation.command.parameters) : invocation.value? p = none := by
  cases invocation <;> cases p <;>
    first | rfl | exact absurd (by dsimp only [command]; decide) unknown

/-- What a command needs is given. -/
theorem has_of_required {invocation : Invocation} {p : Parameter}
    (known : p ∈ invocation.command.parameters) (required : p.isRequired = true) :
    invocation.arguments.has p = true := by
  cases invocation <;> cases p <;>
    first
    | rfl
    | exact absurd known (by dsimp only [command]; decide)
    | exact absurd required (by decide)

/-- Companions are given together. -/
theorem has_companion {invocation : Invocation} (expressible : invocation.Expressible)
    {p q : Parameter} (companion : p.companion? = some q)
    (given : invocation.arguments.has p = true) : invocation.arguments.has q = true := by
  cases invocation with
  | setBucketPolicy options =>
    have admin : (switched options.directoryAdmin).isSome = options.directoryAdmin :=
      isSome_switched _
    cases p <;> cases companion
    · exact expressible.2 (admin ▸ given)
    · exact admin.trans (expressible.1 given)
  | _ => cases p <;> cases companion <;> exact absurd given Bool.false_ne_true

theorem nodup_parameters (command : Command) : command.parameters.Nodup := by
  cases command <;> decide

theorem accepts_write {invocation : Invocation} (expressible : invocation.Expressible)
    {p : Parameter} {value : p.Value} (given : invocation.value? p = some value) :
    p.accepts (p.write value) = true := by
  cases p
  case file =>
    cases invocation with
    | uploadFile options =>
      cases given
      have path : options.file ≠ "" := expressible
      simpa [Parameter.accepts, Parameter.write] using path
    | _ => cases given
  all_goals rfl

/-- Options that can be written make up a whole command line. -/
theorem writable {invocation : Invocation} (expressible : invocation.Expressible) :
    invocation.arguments.Writable invocation.command.parameters where
  known p given := by
    by_contra unknown
    have absent : invocation.value? p = none := value?_of_unknown unknown
    simp [Arguments.has, arguments, absent] at given
  quiet := by cases invocation <;> rfl
  accepted _ _ given := accepts_write expressible given
  complete p known := by
    cases given : invocation.arguments.has p with
    | true => simp [Arguments.lacks, given]
    | false =>
      have spare : p.isRequired = false := by
        rw [← Bool.not_eq_true]
        exact fun required => by simp [has_of_required known required] at given
      have alone : ∀ q, invocation.arguments.has q = true → q.companion? ≠ some p :=
        fun q other companion => by simp [has_companion expressible companion other] at given
      simpa [Arguments.lacks, given, spare] using fun q _ => alone q

/-- The tail holds the operands of a command, if it has some. -/
theorem tail_eq (invocation : Invocation) :
    invocation.tail = "--" :: (invocation.arguments.operands invocation.command.parameters).map
        Setting.token ∨
      invocation.tail = [] ∧
        invocation.arguments.operands invocation.command.parameters = [] := by
  cases invocation
  case setBucketPolicy => exact .inl rfl
  all_goals exact .inr ⟨rfl, rfl⟩

/-- **Command lines are read back.** A command line that is written from the options of a command
gives these options, in whatever order its tokens come. -/
theorem parse_tokens {invocation : Invocation} (expressible : invocation.Expressible)
    {tokens : List String} (order : tokens.Perm invocation.tokens) :
    Invocation.parse invocation.command (tokens ++ invocation.tail) = .ok invocation := by
  -- the tokens are those of the settings in some order
  have reordered := List.eq_map_comp_perm (f := Setting.token)
  obtain ⟨settings, rfl, same⟩ := (congrFun (congrFun reordered tokens) _).mpr order
  have read := Arguments.parse_settings same (nodup_parameters invocation.command)
    (writable expressible) (tail_eq invocation)
  rw [Invocation.parse, read, Except.map, ofArguments_arguments]

/-- A policy for a bucket that is called like a switch. The values look like options too. -/
def oddlyNamed : Invocation :=
  .setBucketPolicy ⟨⟨none, some "", some "--region=x", 18446744073709551615⟩, "--help", true,
    some "-r=--"⟩

/-- Its tokens, from the last to the first. -/
def oddlyNamedTokens : List String :=
  ["--account-id=-r=--", "--directory-admin", "--max-wait-secs=18446744073709551615",
    "--endpoint-url=--region=x", "--profile="]

theorem parse_tokens_oddlyNamed :
    oddlyNamed.Expressible ∧ oddlyNamedTokens.Perm oddlyNamed.tokens ∧
      Invocation.parse .setBucketPolicy (oddlyNamedTokens ++ ["--", "--help"]) =
        .ok oddlyNamed := by
  have expressible : oddlyNamed.Expressible := ⟨fun _ => rfl, fun _ => rfl⟩
  have backwards : oddlyNamed.tokens = oddlyNamedTokens.reverse := by cbv
  have order : oddlyNamedTokens.Perm oddlyNamed.tokens := by
    rw [backwards]
    exact (List.reverse_perm _).symm
  exact ⟨expressible, order, parse_tokens expressible order⟩

end Invocation

end CloudOps
