import CloudOps.Proofs.Bucket.Emptying
import CloudOps.Proofs.Bucket.Requests
import CloudOps.Service.Script

/-!
# The count of deleted objects

Behind a delete request, the keys that it was sent and that were not reported are counted. Nothing
keeps a store from reporting more failures than it was sent keys; the count would then fall below
zero, and the program panics.

* `deleteBatches_count`, `emptyFrom_count`: it panics exactly if some request reports too much.
* `emptyBucket_counts`: with it, failures that are reported otherwise do not end the walk.
* `count_falls_below_zero`: an answer of the service that lists one key twice is enough.
-/

namespace CloudOps

open Program BucketExchange

theorem not_overreports_list {bucket : String} {token : Option String}
    (answer : Except Error ObjectPage) : ¬ Overreports ⟨.listObjectsPage bucket token, answer⟩ :=
  Nat.not_lt_zero _

theorem not_overreports_refused {bucket : String} {keys : List String} (e : Error) :
    ¬ Overreports ⟨.deleteObjects bucket keys, .error e⟩ :=
  Nat.not_lt_zero _

theorem honest_singleton {x : BucketExchange} : Honest [x] ↔ ¬ x.Overreports :=
  List.forall_mem_singleton

/-- The delete requests of a page. -/
theorem deleteBatches_count {bucket : String} {tally : Tally} {batches : List (List String)}
    {events : List (Event BucketCall BucketCall.Answer)} {ending : Ending (Except Error Tally)}
    (run : Run (deleteBatches bucket tally batches).run events ending) :
    Honest (Event.calls events) ↔ ∃ result, ending = .value result := by
  induction batches generalizing tally events with
  | nil =>
    obtain ⟨rfl, rfl⟩ := Action.run_pure_iff.1 run
    exact iff_of_true (List.forall_mem_nil _) ⟨_, rfl⟩
  | cons keys more ih =>
    rcases deleteBatch_bind_run_iff.1 run with ⟨e, rfl, rfl⟩ | ⟨failures, many, rfl, rfl⟩ |
      ⟨failures, few, rest, rfl, run'⟩
    · exact iff_of_true (honest_singleton.2 (not_overreports_refused e)) ⟨_, rfl⟩
    · exact iff_of_false (fun honest => honest_singleton.1 honest many) (by simp)
    · have first : Honest [⟨.deleteObjects bucket keys, .ok failures⟩] :=
        honest_singleton.2 (Nat.not_lt.2 few)
      rw [Event.calls_append, honest_append, ← ih run']
      exact and_iff_right first

/-- The whole walk. -/
theorem emptyFrom_count {pages : Nat} {tally : Tally} {lister : ObjectLister}
    {events : List (Event BucketCall BucketCall.Answer)} {ending : Ending (Except Error Tally)}
    (run : Run (emptyFrom pages tally lister).run events ending) :
    Honest (Event.calls events) ↔ ending ≠ .halted .countBelowZero := by
  induction pages generalizing tally lister events with
  | zero =>
    cases done : lister.done with
    | true =>
      rw [emptyFrom_of_done done] at run
      cases run
      exact iff_of_true (List.forall_mem_nil _) (by simp)
    | false =>
      simp only [emptyFrom, done] at run
      obtain ⟨rfl, rfl⟩ := Action.run_halt_iff.1 run
      exact iff_of_true (List.forall_mem_nil _) (by simp)
  | succ pages ih =>
    cases done : lister.done with
    | true =>
      rw [emptyFrom_of_done done] at run
      cases run
      exact iff_of_true (List.forall_mem_nil _) (by simp)
    | false =>
      rcases (ObjectLister.run_step_bind_iff done).1 run with ⟨e, rfl, rfl⟩ | ⟨page, _, rfl, walk⟩
      · exact iff_of_true (honest_singleton.2 (not_overreports_list _)) (by simp)
      have first : Honest [⟨.listObjectsPage lister.bucket lister.token, .ok page⟩] :=
        honest_singleton.2 (not_overreports_list _)
      rw [← List.singleton_append, Event.calls_append, honest_append]
      refine (and_iff_right first).trans ?_
      rcases Action.run_bind_iff.1 walk with ⟨reason, run₁, rfl⟩ | ⟨e, run₁, rfl⟩ |
        ⟨counted, before, after, run₁, run₂, rfl⟩
      · obtain ⟨-, rfl, dishonest⟩ := deleteBatches_ends run₁
        exact iff_of_false dishonest fun goes_on => goes_on rfl
      · exact iff_of_true ((deleteBatches_count run₁).2 ⟨_, rfl⟩) (by simp)
      · rw [Event.calls_append, honest_append, ← ih run₂]
        exact and_iff_right ((deleteBatches_count run₁).2 ⟨_, rfl⟩)

/-- What becomes of the count when a run empties a bucket. -/
structure CountReport (calls : List BucketExchange) (ending : Ending (Except Error Nat)) :
    Prop where
  /-- It would fall below zero exactly if a delete request reports more failures than it was sent
  keys, -/
  below : ending = .halted (.panic "attempt to subtract with overflow") ↔
    ∃ x ∈ calls, x.Overreports
  /-- and that request is the last one. -/
  stops : StopsAt Overreports calls
  /-- If none does, the walk goes on behind every request that is not refused: it ends behind the
  last page, or when it may ask for no more. -/
  goes_on : (∀ x ∈ calls, ¬ x.Overreports) → firstRefusal? calls = none →
    ending = .halted .pagesExceeded ∨
      ∃ result, ending = .value result ∧ Exhausted calls ∧ sentKeys calls = listedKeys calls

/-- **The count of deleted objects.** It holds whatever the store answers. -/
theorem emptyBucket_counts {pages : Nat} {bucket : String}
    {events : List (Event BucketCall BucketCall.Answer)} {ending : Ending (Except Error Nat)}
    (run : Run (emptyBucket pages bucket).run events ending) :
    CountReport (Event.calls events) ending := by
  have honest : Honest (Event.calls events) ↔ ending ≠ .halted .countBelowZero := by
    rcases Action.run_bind_iff.1 run with ⟨reason, walk, rfl⟩ | ⟨e, walk, rfl⟩ |
      ⟨tally, before, _, walk, last, rfl⟩
    · exact (emptyFrom_count walk).trans (by simp)
    · exact (emptyFrom_count walk).trans (iff_of_true (by simp) (by simp))
    · cases last
      rw [List.append_nil]
      exact (emptyFrom_count walk).trans (iff_of_true (by simp) (by simp))
  have walk := (emptyBucket_walk run).pageWalk
  constructor
  case below => simpa [Honest] using not_congr honest.symm
  case stops => exact fun before x rest split many => walk.stops before x rest split (.inr many)
  case goes_on =>
    intro within accepted
    have ends := emptyBucket_ends run
    cases ending with
    | value result =>
      cases result with
      | ok n =>
        obtain ⟨walked, sent, _, _⟩ := ends
        exact .inr ⟨_, rfl, walked.2, sent⟩
      | error e =>
        rcases ends with refused | ⟨walked, sent, _⟩
        · rw [accepted] at refused
          cases refused
        · exact .inr ⟨_, rfl, walked.2, sent⟩
    | halted reason =>
      cases reason with
      | pagesExceeded => exact .inl rfl
      | panic message => exact absurd within ends.2

/-- A page with one key, and an answer to its deletion that lists the key twice. -/
def doubledRun : Trace BucketCall BucketCall.Answer BucketScript (Except Error Nat) :=
  (emptyBucket 1 "photos").run.run BucketScript.answer
    (walkScript [.ok ⟨["a"], none⟩]
      [.ok [⟨"a", some "AccessDenied", none⟩, ⟨"a", some "InternalError", none⟩]])

theorem emptyBucket_counts_doubled :
    Run (emptyBucket 1 "photos").run doubledRun.events doubledRun.ending ∧
      doubledRun.ending = .halted (.panic "attempt to subtract with overflow") ∧
      CountReport (Event.calls doubledRun.events) doubledRun.ending := by
  have run : Run (emptyBucket 1 "photos").run doubledRun.events doubledRun.ending :=
    run_isRun _ _ _
  exact ⟨run, by cbv, emptyBucket_counts run⟩

/-- The same answer of the service. -/
def doubledScript : ServiceScript where
  replies :=
    [.parts { ReplyParts.empty with keys := [some "a"] },
      .parts { ReplyParts.empty with failures :=
        [⟨some "a", some "AccessDenied", none⟩, ⟨some "a", some "InternalError", none⟩] }]
  polls := []

/-- Over the service, the count is not kept above zero either. -/
theorem count_falls_below_zero :
    ¬ ∀ (service : BucketService) (pages : Nat) (bucket : String)
      (events : List (Event ServiceCall ServiceCall.Answer)) (ending : Ending (Except Error Nat)),
      Run (service.run (emptyBucket pages bucket)).run events ending →
        ending ≠ .halted (.panic "attempt to subtract with overflow") := by
  intro stays
  let trace := (BucketService.run ⟨.virtualHost, 100⟩ (emptyBucket 1 "photos")).run.run
    ServiceScript.answer doubledScript
  have falls : trace.ending = .halted (.panic "attempt to subtract with overflow") := by cbv
  exact stays _ _ _ _ _ (run_isRun _ _ _) falls

end CloudOps
