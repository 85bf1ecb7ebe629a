import CloudOps.Calendar.Instant
import CloudOps.Files
import CloudOps.Program

/-!
# Calls to a bucket store

* `BucketSummary`, `ObjectPage`: what a store gives.
* `BucketCall`: the calls that a store answers; `BucketCall.Result` is what a call gives when it
  succeeds, and any call may fail instead.
* `BucketMethod`: a call without its arguments.
-/

namespace CloudOps

/-- A bucket in a listing. -/
structure BucketSummary where
  name : String
  created : Option Instant
  deriving DecidableEq

/-- A bucket on one line, with its date if it has one. -/
def BucketSummary.line (bucket : BucketSummary) : String :=
  match bucket.created with
  | some created => bucket.name ++ ": " ++ created.longText
  | none => bucket.name

/-- Some keys of a bucket, and where to go on if there are more. -/
structure ObjectPage where
  keys : List String
  nextToken : Option String
  deriving DecidableEq, Repr

/-- A call to a bucket store. -/
inductive BucketCall
  | listBuckets
  | createBucket (bucket : String)
  | deleteBucket (bucket : String)
  /-- Waits until the bucket exists. -/
  | awaitPresence (bucket : String)
  /-- Waits until the bucket does not exist. -/
  | awaitAbsence (bucket : String)
  | listObjectsPage (bucket : String) (token : Option String)
  /-- Deletes several objects at once and gives those that could not be deleted. -/
  | deleteObjects (bucket : String) (keys : List String)
  | putBucketPolicy (bucket text : String)
  /-- The body is still to be read, and may break off. -/
  | putObject (bucket key : String) (body : Body)

/-- The name of a call, without its arguments. -/
inductive BucketMethod
  | listBuckets
  | createBucket
  | deleteBucket
  | awaitPresence
  | awaitAbsence
  | listObjectsPage
  | deleteObjects
  | putBucketPolicy
  | putObject
  deriving DecidableEq, Repr

namespace BucketCall

/-- What a call gives when it succeeds. -/
def Result : BucketCall → Type
  | listBuckets => List BucketSummary
  | listObjectsPage .. => ObjectPage
  | deleteObjects .. => List DeleteFailure
  | _ => Unit

/-- The answer to a call. -/
abbrev Answer : BucketCall → Type := fun c => Except Error c.Result

/-- The method of a call. -/
def method : BucketCall → BucketMethod
  | listBuckets => .listBuckets
  | createBucket _ => .createBucket
  | deleteBucket _ => .deleteBucket
  | awaitPresence _ => .awaitPresence
  | awaitAbsence _ => .awaitAbsence
  | listObjectsPage .. => .listObjectsPage
  | deleteObjects .. => .deleteObjects
  | putBucketPolicy .. => .putBucketPolicy
  | putObject .. => .putObject

/-- The bucket that a call is about. -/
def bucket? : BucketCall → Option String
  | listBuckets => none
  | createBucket bucket => some bucket
  | deleteBucket bucket => some bucket
  | awaitPresence bucket => some bucket
  | awaitAbsence bucket => some bucket
  | listObjectsPage bucket _ => some bucket
  | deleteObjects bucket _ => some bucket
  | putBucketPolicy bucket _ => some bucket
  | putObject bucket _ _ => some bucket

/-- Whether the body of the call, if it has one, can be read to its end. -/
def isReadable : BucketCall → Bool
  | putObject _ _ body => body.isReadable
  | _ => true

theorem eq_of_not_readable {c : BucketCall} (broken : ¬ c.isReadable) :
    ∃ bucket key reason, c = putObject bucket key (.broken reason) := by
  cases c with
  | putObject bucket key body =>
    cases body with
    | broken reason => exact ⟨bucket, key, reason, rfl⟩
    | whole => exact absurd rfl broken
  | _ => exact absurd rfl broken

end BucketCall

/-- The name of a method in a record of calls. -/
def BucketMethod.text : BucketMethod → String
  | .listBuckets => "list_buckets"
  | .createBucket => "create_bucket"
  | .deleteBucket => "delete_bucket"
  | .awaitPresence => "wait_until_bucket_exists"
  | .awaitAbsence => "wait_until_bucket_not_exists"
  | .listObjectsPage => "list_objects_page"
  | .deleteObjects => "delete_objects"
  | .putBucketPolicy => "put_bucket_policy"
  | .putObject => "put_object"

/-- A program over bucket calls. -/
abbrev BucketProgram (α : Type) := Program BucketCall BucketCall.Answer α

/-- An operation over bucket calls. -/
abbrev BucketAction (α : Type) := Action BucketCall BucketCall.Answer α

/-- The operation that makes one call and fails with it. -/
def BucketCall.perform (c : BucketCall) : BucketAction c.Result := Action.perform c

end CloudOps
