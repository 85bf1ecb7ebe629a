import CloudOps.Bucket.Operations

/-!
# A bucket store that follows a script

`BucketScript` holds the answers to the calls of each method in order. When the answers of a method
are used up, its calls succeed and give nothing. A body that breaks off fails its call, and no
answer is used.
-/

namespace CloudOps

/-- The answers that are left, method by method. -/
structure BucketScript where
  listBuckets : List (Except Error (List BucketSummary))
  createBucket : List (Except Error Unit)
  deleteBucket : List (Except Error Unit)
  awaitPresence : List (Except Error Unit)
  awaitAbsence : List (Except Error Unit)
  listObjectsPage : List (Except Error ObjectPage)
  deleteObjects : List (Except Error (List DeleteFailure))
  putBucketPolicy : List (Except Error Unit)
  putObject : List (Except Error Unit)

namespace BucketScript

/-- The next answer, or the one that stands in when there is none. -/
def first {α : Type} (answers : List (Except Error α)) (otherwise : α) : Except Error α :=
  answers.head?.getD (.ok otherwise)

/-- The answer to a call and the script after it. -/
def answer : (c : BucketCall) → BucketScript → c.Answer × BucketScript
  | .listBuckets, s => (first s.listBuckets [], { s with listBuckets := s.listBuckets.tail })
  | .createBucket _, s => (first s.createBucket (), { s with createBucket := s.createBucket.tail })
  | .deleteBucket _, s => (first s.deleteBucket (), { s with deleteBucket := s.deleteBucket.tail })
  | .awaitPresence _, s =>
    (first s.awaitPresence (), { s with awaitPresence := s.awaitPresence.tail })
  | .awaitAbsence _, s => (first s.awaitAbsence (), { s with awaitAbsence := s.awaitAbsence.tail })
  | .listObjectsPage _ _, s =>
    (first s.listObjectsPage ⟨[], none⟩, { s with listObjectsPage := s.listObjectsPage.tail })
  | .deleteObjects _ _, s =>
    (first s.deleteObjects [], { s with deleteObjects := s.deleteObjects.tail })
  | .putBucketPolicy _ _, s =>
    (first s.putBucketPolicy (), { s with putBucketPolicy := s.putBucketPolicy.tail })
  | .putObject _ _ body, s =>
    match body with
    | .whole _ => (first s.putObject (), { s with putObject := s.putObject.tail })
    | .broken reason => (.error (.io reason), s)

/-- Enough pages for a walk: those of the script, and the empty one behind them. -/
def pages (s : BucketScript) : Nat := s.listObjectsPage.length + 1

end BucketScript

end CloudOps
