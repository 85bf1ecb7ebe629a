import CloudOps.CommandLine.Command
import CloudOps.Proofs.CommandLine.Mentions

/-!
# Which policy a command line asks for

The policy for anonymous reading is the one that is given when nothing else is asked for, so it
must not be given by accident.

* `PolicyChoice`: what the options and the policy have to do with what a command line mentions.
* `policy_follows_command_line`: each of the two options comes with the other, and the policy is
  the one for the account if a command line mentions one of them.
-/

namespace CloudOps

theorem Policy.directoryBucketAdmin_ne (region account bucket bucket' : String) :
    Policy.directoryBucketAdmin region account bucket ≠ .readOnlyAnonymous bucket' := by
  simp [directoryBucketAdmin, readOnlyAnonymous]

/-- What a command line that asks for a policy comes to. -/
structure PolicyChoice (texts : List String) (options : SetBucketPolicyOptions) : Prop where
  /-- The options are those that the command line mentions, -/
  admin : options.directoryAdmin = true ↔ Mentions texts .directoryAdmin
  account : options.accountId.isSome = true ↔ Mentions texts .accountId
  /-- and each of them comes with the other. -/
  paired : options.directoryAdmin = true ↔ options.accountId.isSome = true
  /-- With them, the policy is the one for the account, in every region. -/
  granted : Mentions texts .directoryAdmin ∨ Mentions texts .accountId →
    ∃ account, options.accountId = some account ∧
      ∀ region, options.policy region = .directoryBucketAdmin region account options.bucket
  /-- Without them, anyone may read. -/
  anonymous : ¬ Mentions texts .directoryAdmin → ¬ Mentions texts .accountId →
    ∀ region, options.policy region = .readOnlyAnonymous options.bucket
  /-- With one of them, the policy never lets anyone read. -/
  guarded : Mentions texts .directoryAdmin ∨ Mentions texts .accountId →
    ∀ region bucket, options.policy region ≠ .readOnlyAnonymous bucket

/-- Options of which each comes with the other make up a choice. -/
theorem PolicyChoice.of_paired {texts : List String} {options : SetBucketPolicyOptions}
    (admin : options.directoryAdmin = true ↔ Mentions texts .directoryAdmin)
    (account : options.accountId.isSome = true ↔ Mentions texts .accountId)
    (paired : options.directoryAdmin = true ↔ options.accountId.isSome = true) :
    PolicyChoice texts options := by
  have granted (asked : Mentions texts .directoryAdmin ∨ Mentions texts .accountId) :
      ∃ account, options.accountId = some account ∧
        ∀ region, options.policy region = .directoryBucketAdmin region account options.bucket := by
    have given : options.accountId.isSome = true := by
      rcases asked with h | h
      · exact paired.1 (admin.2 h)
      · exact account.2 h
    obtain ⟨owner, own⟩ := Option.isSome_iff_exists.1 given
    exact ⟨owner, own, fun region => by rw [SetBucketPolicyOptions.policy, own, paired.2 given]⟩
  constructor
  case admin => exact admin
  case account => exact account
  case paired => exact paired
  case granted => exact granted
  case anonymous =>
    intro _ nobody region
    have none : options.accountId = none := by
      rw [← Option.not_isSome_iff_eq_none]
      exact mt account.1 nobody
    rw [SetBucketPolicyOptions.policy, none]
  case guarded =>
    intro asked region bucket
    obtain ⟨owner, -, same⟩ := granted asked
    rw [same]
    exact Policy.directoryBucketAdmin_ne region owner options.bucket bucket

/-- **The policy follows the command line.** This holds of every command line that is read, in
whatever order and spelling its tokens come. -/
theorem policy_follows_command_line {texts : List String} {invocation : Invocation}
    (parsed : Invocation.parse .setBucketPolicy texts = .ok invocation) :
    ∃ options, invocation = .setBucketPolicy options ∧ PolicyChoice texts options := by
  obtain ⟨arguments, given, rfl⟩ : ∃ arguments,
      Arguments.parse Command.setBucketPolicy.parameters texts = .ok arguments ∧
        Invocation.ofArguments arguments .setBucketPolicy = invocation := by
    rw [Invocation.parse] at parsed
    cases read : Arguments.parse Command.setBucketPolicy.parameters texts with
    | error e => simp [read, Except.map] at parsed
    | ok arguments =>
      rw [read] at parsed
      exact ⟨arguments, rfl, Except.ok.inj parsed⟩
  refine ⟨_, rfl, .of_paired ?_ ?_ ?_⟩
  · exact Arguments.has_iff_mentions given ⟨rfl, by decide⟩
  · exact Arguments.has_iff_mentions given ⟨rfl, by decide⟩
  · exact ⟨Arguments.companion_given given (by decide) (by decide) rfl,
      Arguments.companion_given given (by decide) (by decide) rfl⟩

/-- A bucket that is called like an option, behind an option whose value looks like one. -/
def escapedLine : List String :=
  ["--account-id=-1", "--region", "eu-west-1", "--directory-admin", "--", "--account-id"]

/-- What is read from it. -/
def escapedOptions : SetBucketPolicyOptions where
  client := ⟨some "eu-west-1", none, none, defaultMaxWait⟩
  bucket := "--account-id"
  directoryAdmin := true
  accountId := some "-1"

theorem policy_follows_command_line_escaped :
    Invocation.parse .setBucketPolicy escapedLine = .ok (.setBucketPolicy escapedOptions) ∧
      ∃ options, Invocation.setBucketPolicy escapedOptions = .setBucketPolicy options ∧
        PolicyChoice escapedLine options := by
  have parsed : Invocation.parse .setBucketPolicy escapedLine =
      .ok (.setBucketPolicy escapedOptions) := by
    rfl
  exact ⟨parsed, policy_follows_command_line parsed⟩

end CloudOps
