import CloudOps.Bucket.Lister
import CloudOps.Files
import CloudOps.Policy
import CloudOps.Text.Quoted

/-!
# Operations on buckets

* `listBuckets`, `makeBucket`, `removeBucket`: a bucket is made or removed when it has become
  visible or invisible.
* `emptyBucket`: deletes every object, page by page, at most `deleteLimit` in one request. Objects
  that cannot be deleted do not stop the walk; they are reported at its end.
* `emptyAndRemoveBucket`: empties a bucket and then removes it.
* `setBucketPolicy`, `uploadFile`: give a bucket a policy or an object.
* `policyFailureText`: why a policy could not be set, in words.
-/

namespace CloudOps

/-- The largest number of keys in one delete request. -/
def deleteLimit : Nat := 1000

/-- A list in pieces of a given positive length, the last one shorter if there is a rest. -/
def batches {α : Type} (size : Nat) (list : List α) : List (List α) :=
  if stop : list = [] ∨ size = 0 then []
  else
    have : (list.drop size).length < list.length := by
      have : 0 < list.length := List.length_pos_iff.2 fun e => stop (.inl e)
      have : size ≠ 0 := fun e => stop (.inr e)
      rw [List.length_drop]
      omega
    list.take size :: batches size (list.drop size)
termination_by list.length

theorem batches_nil {α : Type} (size : Nat) : batches size ([] : List α) = [] := by
  unfold batches; simp

theorem batches_of_ne_nil {α : Type} {size : Nat} (positive : 0 < size) {list : List α}
    (h : list ≠ []) :
    batches size list = list.take size :: batches size (list.drop size) := by
  have : size ≠ 0 := by omega
  rw [batches]
  simp [h, this]

/-- Every bucket. -/
def listBuckets : BucketAction (List BucketSummary) := BucketCall.perform .listBuckets

/-- Creates a bucket and waits until it is visible. -/
def makeBucket (bucket : String) : BucketAction Unit := do
  BucketCall.perform (.createBucket bucket)
  Action.log .debug ("waiting for bucket " ++ bucket ++ " to exist")
  BucketCall.perform (.awaitPresence bucket)

/-- Deletes an empty bucket and waits until it is gone. -/
def removeBucket (bucket : String) : BucketAction Unit := do
  BucketCall.perform (.deleteBucket bucket)
  Action.log .debug ("waiting for bucket " ++ bucket ++ " to disappear")
  BucketCall.perform (.awaitAbsence bucket)
  Action.log .info ("deleted bucket " ++ bucket)

/-- How many objects were deleted, and which were not. -/
structure Tally where
  deleted : Nat
  failed : List DeleteFailure
  deriving DecidableEq, Repr

/-- The count behind a request for some keys: those that were not reported are deleted. -/
def Tally.add (tally : Tally) (requested : Nat) (failures : List DeleteFailure) : Tally :=
  ⟨tally.deleted + (requested - failures.length), tally.failed ++ failures⟩

/-- Deletes some keys in one request. A store that reports more failures than keys ends the
program: the number of deleted objects would fall below zero. -/
def deleteBatch (bucket : String) (tally : Tally) (keys : List String) : BucketAction Tally := do
  Action.log .debug ("deleting " ++ keys.length.repr ++ " objects from " ++ bucket)
  let failures : List DeleteFailure ← BucketCall.perform (.deleteObjects bucket keys)
  if keys.length < failures.length then Action.halt .countBelowZero
  else return tally.add keys.length failures

/-- Deletes keys in several requests, one after another. -/
def deleteBatches (bucket : String) : Tally → List (List String) → BucketAction Tally
  | tally, [] => return tally
  | tally, keys :: more => do
    let counted ← deleteBatch bucket tally keys
    deleteBatches bucket counted more

/-- Deletes the objects from a place in the listing on, with at most so many pages. -/
def emptyFrom : Nat → Tally → ObjectLister → BucketAction Tally
  | 0, tally, lister => if lister.done then return tally else Action.halt .pagesExceeded
  | pages + 1, tally, lister => do
    match ← lister.step with
    | (none, _) => return tally
    | (some keys, after) =>
      let counted ← deleteBatches lister.bucket tally (batches deleteLimit keys)
      emptyFrom pages counted after

/-- The number of deleted objects, or a failure that holds those that are left. -/
def Tally.outcome (bucket : String) (tally : Tally) : Except Error Nat :=
  if tally.failed.isEmpty then .ok tally.deleted else .error (.partialDelete bucket tally.failed)

/-- Deletes every object of a bucket and gives their number. Objects that were deleted before a
failure stay deleted. -/
def emptyBucket (pages : Nat) (bucket : String) : BucketAction Nat := do
  let tally ← emptyFrom pages ⟨0, []⟩ (.start bucket)
  ExceptT.mk (.done (tally.outcome bucket))

/-- Empties a bucket, then removes it. The bucket itself is not touched unless every object was
deleted. -/
def emptyAndRemoveBucket (pages : Nat) (bucket : String) : BucketAction Nat := do
  let deleted ← emptyBucket pages bucket
  Action.log .info ("deleted " ++ deleted.repr ++ " objects from " ++ bucket)
  removeBucket bucket
  return deleted

/-- Gives a bucket a policy. -/
def setBucketPolicy (bucket : String) (policy : Policy) : BucketAction Unit := do
  Action.log .debug ("putting policy on " ++ bucket ++ ": " ++ policy.text)
  BucketCall.perform (.putBucketPolicy bucket policy.text)

/-- Stores what is found at a path under a key. Where nothing can be opened, no call is made; a body
that breaks off is a matter of the call. -/
def uploadFile (contents : Except Files.Failure ByteArray) (bucket key path : String) :
    BucketAction Unit := do
  match Body.ofFile contents with
  | .error e => throw e
  | .ok body =>
    BucketCall.perform (.putObject bucket key body)
    Action.log .info ("uploaded " ++ Text.quoted path ++ " to " ++ bucket ++ "/" ++ key)

section UploadFile

variable {contents : Except Files.Failure ByteArray} (bucket key path : String)

theorem uploadFile_of_error {e : Error} (unopened : Body.ofFile contents = .error e) :
    uploadFile contents bucket key path = throw e := by
  simp only [uploadFile, unopened]

theorem uploadFile_of_body {body : Body} (opened : Body.ofFile contents = .ok body) :
    uploadFile contents bucket key path = (do
      BucketCall.perform (.putObject bucket key body)
      Action.log .info ("uploaded " ++ Text.quoted path ++ " to " ++ bucket ++ "/" ++ key)) := by
  simp only [uploadFile, opened]

end UploadFile

/-- Why a policy could not be set. -/
def policyFailureText (bucket : String) (e : Error) : Message :=
  if e.isNotFound then .text ("Bucket " ++ Text.quoted bucket ++ " does not exist")
  else e.message.after ("Unable to set bucket " ++ Text.quoted bucket ++ " policy, ")

/-! ## Batches -/

/-- Nothing is lost or moved when a list is cut into batches. -/
theorem flatten_batches {α : Type} {size : Nat} (positive : 0 < size) (list : List α) :
    (batches size list).flatten = list := by
  fun_induction batches size list with
  | case1 list h =>
    rcases h with rfl | rfl
    · rfl
    · omega
  | case2 list _ shorter ih => rw [List.flatten_cons, ih, List.take_append_drop]

/-- No batch is empty or too long. -/
theorem length_of_mem_batches {α : Type} {size : Nat} {list batch : List α}
    (h : batch ∈ batches size list) : 0 < batch.length ∧ batch.length ≤ size := by
  fun_induction batches size list with
  | case1 => cases h
  | case2 list nonempty shorter ih =>
    rcases List.mem_cons.1 h with rfl | more
    · have : list ≠ [] := fun e => nonempty (.inl e)
      have : 0 < list.length := List.length_pos_iff.2 this
      have : size ≠ 0 := fun e => nonempty (.inr e)
      simp only [List.length_take]
      omega
    · exact ih more

end CloudOps
