import CloudOps.Policy
import CloudOps.Proofs.Json.RoundTrip

/-!
# What the text of a policy holds

* `Policy.parse_text`: the text of any policy holds its document, whatever the texts in it are.
* `Grant`: what the two policies are made from. `Grant.document` is the document that is meant.
* `Grant.texts_faithful`: the text of a policy holds the document that is meant and nothing else,
  and in one region no two grants have the same text.
-/

namespace CloudOps

open Json

/-! ## Any policy -/

theorem Principal.fits (depth : Nat) (principal : Principal) : Fits (depth + 1) principal.json := by
  cases principal with
  | anyone => exact .string _ _
  | account arn => exact .object (List.forall_mem_singleton.2 (.string _ _))

theorem OneOrMany.fits (depth : Nat) (texts : OneOrMany) : Fits (depth + 1) texts.json := by
  cases texts with
  | one text => exact .string _ _
  | many texts =>
    refine .array fun item h => ?_
    obtain ⟨text, -, rfl⟩ := List.mem_map.1 h
    exact .string _ _

theorem Effect.fits (depth : Nat) (effect : Effect) : Fits depth effect.json := by
  cases effect
  exact .string _ _

theorem Statement.fits (depth : Nat) (s : Statement) : Fits (depth + 2) s.json := by
  refine .object ?_
  simp only [List.forall_mem_cons]
  exact ⟨.string _ _, s.effect.fits _, s.principal.fits _, s.action.fits _, s.resource.fits _,
    nofun⟩

namespace Policy

theorem fits (depth : Nat) (policy : Policy) : Fits (depth + 4) policy.document := by
  refine .object ?_
  simp only [List.forall_mem_cons]
  refine ⟨.string _ _, .array fun item h => ?_, nofun⟩
  obtain ⟨s, -, rfl⟩ := List.mem_map.1 h
  exact s.fits _

/-- **The text of a policy holds its document**, whatever characters the texts in it have. -/
theorem parse_text (policy : Policy) : parse policy.text = .ok policy.document :=
  parse_render (policy.fits _)

end Policy

/-! ## The policies of a bucket -/

/-- What a policy is made from. -/
inductive Grant
  /-- Anyone may read the objects of a bucket. -/
  | readOnly (bucket : String)
  /-- An account may do everything with its directory bucket. -/
  | admin (account bucket : String)
  deriving DecidableEq, Repr

namespace Grant

/-- The policy for a bucket in a region. -/
def policy (region : String) : Grant → Policy
  | readOnly bucket => .readOnlyAnonymous bucket
  | admin account bucket => .directoryBucketAdmin region account bucket

/-- The document that is meant. -/
def document (region : String) : Grant → Json
  | readOnly bucket =>
    .object [("Version", .string "2012-10-17"),
      ("Statement", .array [.object [("Sid", .string "AddPerm"), ("Effect", .string "Allow"),
        ("Principal", .string "*"), ("Action", .array [.string "s3:GetObject"]),
        ("Resource", .array [.string ("arn:aws:s3:::" ++ bucket ++ "/*")])]])]
  | admin account bucket =>
    .object [("Version", .string "2012-10-17"),
      ("Statement", .array [.object [("Sid", .string "AdminPolicy"), ("Effect", .string "Allow"),
        ("Principal", .object [("AWS", .string ("arn:aws:iam::" ++ account ++ ":root"))]),
        ("Action", .string "s3express:*"),
        ("Resource", .string
          ("arn:aws:s3express:" ++ region ++ ":" ++ account ++ ":bucket/" ++ bucket))]])]

theorem document_policy (region : String) (grant : Grant) :
    (grant.policy region).document = grant.document region := by
  cases grant <;> rfl

theorem document_injective (region : String) : Function.Injective (document region) := by
  intro grant other same
  cases grant with
  | readOnly bucket =>
    cases other with
    | readOnly bucket' => simpa [document] using same
    | admin account' bucket' => simp [document] at same
  | admin account bucket =>
    cases other with
    | readOnly bucket' => simp [document] at same
    | admin account' bucket' =>
      obtain ⟨rfl, h⟩ : account = account' ∧ _ := by simpa [document] using same
      simpa using h

/-- **The text of a policy is faithful.** It holds the document that is meant and nothing else,
whatever characters its inputs have, and in one region different grants have different texts. -/
theorem texts_faithful (region : String) :
    (∀ grant : Grant, parse (grant.policy region).text = .ok (grant.document region)) ∧
      Function.Injective fun grant : Grant => (grant.policy region).text := by
  have parsed (grant : Grant) : parse (grant.policy region).text = .ok (grant.document region) := by
    rw [Policy.parse_text, document_policy]
  refine ⟨parsed, fun grant other same => ?_⟩
  have same : (grant.policy region).text = (other.policy region).text := same
  have read := parsed grant
  rw [same, parsed other] at read
  exact (document_injective region (Except.ok.inj read)).symm

end Grant

end CloudOps
