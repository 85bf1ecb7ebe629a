import CloudOps.Json.Value

/-!
# Bucket policies

The two policy documents that a bucket can be given.

* `Policy.readOnlyAnonymous`: anyone may read any object.
* `Policy.directoryBucketAdmin`: one account may do everything with a directory bucket.
* `Policy.document`, `Policy.text`: the document as JSON and its compact text.
-/

namespace CloudOps

/-- What a statement does. -/
inductive Effect
  | allow
  deriving DecidableEq, Repr

/-- Whom a statement is about. -/
inductive Principal
  /-- Anyone at all. -/
  | anyone
  /-- The identities of an account, named by its ARN. -/
  | account (arn : String)
  deriving DecidableEq, Repr

/-- A single text, or a list of texts that stays a list when it has one item. -/
inductive OneOrMany
  | one (value : String)
  | many (values : List String)
  deriving DecidableEq, Repr

/-- A rule of a policy. -/
structure Statement where
  sid : String
  effect : Effect
  principal : Principal
  action : OneOrMany
  resource : OneOrMany
  deriving DecidableEq, Repr

/-- A policy document. -/
structure Policy where
  version : String
  statements : List Statement
  deriving DecidableEq, Repr

/-- The version of the policy language. -/
def policyVersion : String := "2012-10-17"

/-- The ARN of all objects of a bucket. -/
def objectsArn (bucket : String) : String := "arn:aws:s3:::" ++ bucket ++ "/*"

/-- The ARN of an account. -/
def accountArn (account : String) : String := "arn:aws:iam::" ++ account ++ ":root"

/-- The ARN of a directory bucket. -/
def directoryBucketArn (region account bucket : String) : String :=
  "arn:aws:s3express:" ++ region ++ ":" ++ account ++ ":bucket/" ++ bucket

/-- The effect as the document names it. -/
def Effect.json : Effect → Json
  | .allow => .string "Allow"

/-- The principal as the document names it. -/
def Principal.json : Principal → Json
  | .anyone => .string "*"
  | .account arn => .object [("AWS", .string arn)]

/-- One text or a list of texts. -/
def OneOrMany.json : OneOrMany → Json
  | .one value => .string value
  | .many values => .array (values.map .string)

/-- A statement, its fields in their order. -/
def Statement.json (s : Statement) : Json :=
  .object [("Sid", .string s.sid), ("Effect", s.effect.json), ("Principal", s.principal.json),
    ("Action", s.action.json), ("Resource", s.resource.json)]

namespace Policy

/-- Lets anyone read any object of the bucket. -/
def readOnlyAnonymous (bucket : String) : Policy :=
  ⟨policyVersion,
    [⟨"AddPerm", .allow, .anyone, .many ["s3:GetObject"], .many [objectsArn bucket]⟩]⟩

/-- Lets the identities of the account that owns a directory bucket do everything with it. -/
def directoryBucketAdmin (region account bucket : String) : Policy :=
  ⟨policyVersion,
    [⟨"AdminPolicy", .allow, .account (accountArn account), .one "s3express:*",
      .one (directoryBucketArn region account bucket)⟩]⟩

/-- The document, its fields in their order. -/
def document (policy : Policy) : Json :=
  .object [("Version", .string policy.version),
    ("Statement", .array (policy.statements.map Statement.json))]

/-- The compact text of the document. -/
def text (policy : Policy) : String := policy.document.render

end Policy

end CloudOps
