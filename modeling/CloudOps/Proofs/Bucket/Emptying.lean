import CloudOps.Bucket.Script
import CloudOps.Proofs.Bucket.Walk
import Mathlib

/-!
# What emptying a bucket reports

* `emptyBucket_ends`: what the calls of `emptyBucket` show, whichever way it ends.
* `emptyBucket_forgiven`: the failures that delete requests report change no request.
* `emptyBucket_reports`: the result is determined by the calls alone: the number of keys, all
  reported failures, or the first request that was refused.
-/

namespace CloudOps

open Program

/-- No request was refused, and the listing went up to its last page. -/
def Walked (calls : List BucketExchange) : Prop :=
  firstRefusal? calls = none ∧ Exhausted calls

/-- What the calls show when the emptying of a bucket ends. -/
def EmptyingEnds (pages : Nat) (bucket : String) (calls : List BucketExchange) :
    Ending (Except Error Nat) → Prop
  | .value (.ok n) =>
    Walked calls ∧ sentKeys calls = listedKeys calls ∧ reportedFailures calls = [] ∧
      n = (listedKeys calls).length
  | .value (.error e) =>
    firstRefusal? calls = some e ∨
      (Walked calls ∧ sentKeys calls = listedKeys calls ∧ reportedFailures calls ≠ [] ∧
        e = .partialDelete bucket (reportedFailures calls))
  | .halted (.panic message) => Halt.panic message = .countBelowZero ∧ ¬ Honest calls
  | .halted .pagesExceeded =>
    firstRefusal? calls = none ∧ (listedPages calls).length = pages ∧
      ∀ page ∈ listedPages calls, page.nextToken ≠ none

theorem emptyBucket_ends {pages : Nat} {bucket : String}
    {events : List (Event BucketCall BucketCall.Answer)} {ending : Ending (Except Error Nat)}
    (run : Run (emptyBucket pages bucket).run events ending) :
    EmptyingEnds pages bucket (Event.calls events) ending := by
  rcases Action.run_bind_iff.1 run with ⟨reason, walk, rfl⟩ | ⟨e, walk, rfl⟩ |
    ⟨tally, before, _, walk, last, rfl⟩
  · have := emptyFrom_ends rfl walk
    cases reason <;> exact this
  · exact .inl (emptyFrom_ends rfl walk)
  cases last
  rw [List.append_nil]
  obtain ⟨accounted, exhausted, sent⟩ := emptyFrom_ends rfl walk
  have failed : tally.failed = reportedFailures (Event.calls before) := accounted.failed
  have walked : Walked (Event.calls before) := ⟨accounted.accepted, exhausted⟩
  unfold Tally.outcome
  by_cases quiet : tally.failed = []
  · rw [if_pos (List.isEmpty_iff.2 quiet)]
    refine ⟨walked, sent, failed ▸ quiet, ?_⟩
    have := accounted.deleted
    rw [← failed, quiet, sent] at this
    simpa using this
  · rw [if_neg (mt List.isEmpty_iff.1 quiet), failed]
    exact .inr ⟨walked, sent, failed ▸ quiet, rfl⟩

/-- If no request fails, a walk that was not stopped deletes every key and reports every failure. -/
theorem EmptyingEnds.of_accepted {pages : Nat} {bucket : String} {calls : List BucketExchange}
    {ending : Ending (Except Error Nat)} (ends : EmptyingEnds pages bucket calls ending)
    (accepted : firstRefusal? calls = none) (honest : Honest calls) :
    ((listedPages calls).length = pages ∧ ∀ page ∈ listedPages calls, page.nextToken ≠ none) ∨
      Exhausted calls ∧ sentKeys calls = listedKeys calls ∧ ending = .value
        (if reportedFailures calls = [] then .ok (listedKeys calls).length
          else .error (.partialDelete bucket (reportedFailures calls))) := by
  match ending, ends with
  | .value (.ok n), ⟨walked, sent, quiet, count⟩ =>
    exact .inr ⟨walked.2, sent, by rw [if_pos quiet, count]⟩
  | .value (.error e), .inl refused => cases accepted.symm.trans refused
  | .value (.error e), .inr ⟨walked, sent, noisy, all⟩ =>
    exact .inr ⟨walked.2, sent, by rw [if_neg noisy, all]⟩
  | .halted (.panic _), ⟨_, dishonest⟩ => exact absurd honest dishonest
  | .halted .pagesExceeded, ⟨_, stopped⟩ => exact .inl stopped

/-! ## Reported failures change no request -/

/-- The event without the failures that it reports. -/
def forgiven : Event BucketCall BucketCall.Answer → Event BucketCall BucketCall.Answer
  | .call (.deleteObjects bucket keys) (.ok _) => .call (.deleteObjects bucket keys) (.ok [])
  | event => event

theorem deleteBatches_forgiven {bucket : String} {tally : Tally} {batches : List (List String)}
    {events : List (Event BucketCall BucketCall.Answer)} {result : Except Error Tally}
    (run : Run (deleteBatches bucket tally batches).run events (.value result)) (other : Tally) :
    ∃ counted, Run (deleteBatches bucket other batches).run (events.map forgiven)
      (.value (result.map fun _ => counted)) := by
  induction batches generalizing tally other events with
  | nil =>
    obtain ⟨rfl, h⟩ := Action.run_pure_iff.1 run
    cases h
    exact ⟨other, .done _⟩
  | cons keys more ih =>
    rcases deleteBatch_bind_run_iff.1 run with ⟨e, rfl, h⟩ | ⟨_, _, _, h⟩ |
      ⟨failures, few, rest, rfl, run'⟩
    · cases h
      exact ⟨other, deleteBatch_bind_run_iff.2 (.inl ⟨e, rfl, rfl⟩)⟩
    · cases h
    · obtain ⟨counted, run''⟩ := ih run' (other.add keys.length [])
      refine ⟨counted, deleteBatch_bind_run_iff.2 (.inr (.inr ⟨[], Nat.zero_le _, _, ?_, run''⟩))⟩
      rw [List.map_append]
      rfl

theorem emptyFrom_forgiven {pages : Nat} {tally : Tally} {lister : ObjectLister}
    {events : List (Event BucketCall BucketCall.Answer)} {result : Except Error Tally}
    (run : Run (emptyFrom pages tally lister).run events (.value result)) (other : Tally) :
    ∃ counted, Run (emptyFrom pages other lister).run (events.map forgiven)
      (.value (result.map fun _ => counted)) := by
  induction pages generalizing tally other lister events with
  | zero =>
    cases done : lister.done with
    | true =>
      rw [emptyFrom_of_done done] at run ⊢
      cases run
      exact ⟨other, .done _⟩
    | false =>
      simp only [emptyFrom, done] at run
      cases (Action.run_halt_iff.1 run).2
  | succ pages ih =>
    cases done : lister.done with
    | true =>
      rw [emptyFrom_of_done done] at run ⊢
      cases run
      exact ⟨other, .done _⟩
    | false =>
      rcases (ObjectLister.run_step_bind_iff done).1 run with ⟨e, rfl, h⟩ | ⟨page, _, rfl, walk⟩
      · cases h
        exact ⟨other, (ObjectLister.run_step_bind_iff done).2 (.inl ⟨e, rfl, rfl⟩)⟩
      rcases Action.run_bind_iff.1 walk with ⟨_, _, h⟩ | ⟨e, run₁, h⟩ |
        ⟨counted, before, after, run₁, run₂, rfl⟩
      · cases h
      · cases h
        obtain ⟨counted, run₁'⟩ := deleteBatches_forgiven run₁ other
        refine ⟨counted, (ObjectLister.run_step_bind_iff done).2 (.inr ⟨page, _, rfl, ?_⟩)⟩
        exact Action.run_bind_iff.2 (.inr (.inl ⟨e, run₁', rfl⟩))
      · obtain ⟨counted₁, run₁'⟩ := deleteBatches_forgiven run₁ other
        obtain ⟨counted₂, run₂'⟩ := ih run₂ counted₁
        refine ⟨counted₂, (ObjectLister.run_step_bind_iff done).2 (.inr ⟨page, _, rfl, ?_⟩)⟩
        exact Action.run_bind_iff.2
          (.inr (.inr ⟨counted₁, _, _, run₁', run₂', List.map_append⟩))

/-- **Reported failures change no request.** The requests of a run that ends are those of a run in
which no failure is reported. -/
theorem emptyBucket_forgiven {pages : Nat} {bucket : String}
    {events : List (Event BucketCall BucketCall.Answer)} {result : Except Error Nat}
    (run : Run (emptyBucket pages bucket).run events (.value result)) :
    ∃ result', Run (emptyBucket pages bucket).run (events.map forgiven) (.value result') := by
  rcases Action.run_bind_iff.1 run with ⟨_, _, h⟩ | ⟨e, walk, h⟩ | ⟨tally, _, _, walk, last, rfl⟩
  · cases h
  · cases h
    obtain ⟨_, walk'⟩ := emptyFrom_forgiven walk ⟨0, []⟩
    exact ⟨_, Action.run_bind_iff.2 (.inr (.inl ⟨e, walk', rfl⟩))⟩
  · cases last
    obtain ⟨counted, walk'⟩ := emptyFrom_forgiven walk ⟨0, []⟩
    rw [List.append_nil]
    exact ⟨_, Action.run_bind_iff.2 (.inr (.inr ⟨counted, _, [], walk', .done _,
      (List.append_nil _).symm⟩))⟩

/-! ## The report -/

/-- What a run that empties a bucket reports, read off its calls. -/
structure EmptyingReport (pages : Nat) (bucket : String)
    (events : List (Event BucketCall BucketCall.Answer)) (ending : Ending (Except Error Nat)) :
    Prop where
  /-- The number of keys, if every request succeeded and no failure was reported. -/
  counted : ∀ n, ending = .value (.ok n) ↔
    Walked (Event.calls events) ∧ reportedFailures (Event.calls events) = [] ∧
      n = (listedKeys (Event.calls events)).length
  /-- All reported failures, if every request succeeded and there are any. A store may itself fail
  with a `partialDelete`; such a failure is passed on like any other. -/
  failed : ∀ owner failed, ending = .value (.error (.partialDelete owner failed)) ↔
    (Walked (Event.calls events) ∧ reportedFailures (Event.calls events) ≠ [] ∧ owner = bucket ∧
      failed = reportedFailures (Event.calls events)) ∨
    firstRefusal? (Event.calls events) = some (.partialDelete owner failed)
  /-- The message then names the first failure. -/
  named : reportedFailures (Event.calls events) ≠ [] →
    ∃ first rest, reportedFailures (Event.calls events) = first :: rest ∧
      (Error.partialDelete bucket (first :: rest)).message =
        .text ((rest.length + 1).repr ++ " object(s) in " ++ bucket ++
          " could not be deleted (first: " ++ first.key ++ ")")
  /-- Otherwise the failure of the first refused request. -/
  refused : ∀ result, ending = .value result → ¬ Walked (Event.calls events) →
    ∃ e, firstRefusal? (Event.calls events) = some e ∧ result = .error e
  /-- Only a refused request keeps the walk from deleting every key of every page. -/
  covered : ∀ result, ending = .value result → firstRefusal? (Event.calls events) = none →
    Exhausted (Event.calls events) ∧
      sentKeys (Event.calls events) = listedKeys (Event.calls events)
  /-- The same requests are made when no failure is reported. -/
  steady : ∀ result, ending = .value result →
    ∃ result', Run (emptyBucket pages bucket).run (events.map forgiven) (.value result')
  /-- A walk is stopped only behind as many pages as it may ask for. -/
  stopped : ∀ reason, ending = .halted reason →
    firstRefusal? (Event.calls events) = none ∧
      (listedPages (Event.calls events)).length = pages ∧
      ∀ page ∈ listedPages (Event.calls events), page.nextToken ≠ none

/-- **What emptying a bucket reports.** The premise is that no delete request reports more failures
than it was sent keys. -/
theorem emptyBucket_reports {pages : Nat} {bucket : String}
    {events : List (Event BucketCall BucketCall.Answer)} {ending : Ending (Except Error Nat)}
    (run : Run (emptyBucket pages bucket).run events ending)
    (honest : Honest (Event.calls events)) : EmptyingReport pages bucket events ending := by
  have ends := emptyBucket_ends run
  constructor
  case counted =>
    intro n
    match ending, ends with
    | .value (.ok m), ⟨walked, _, quiet, hm⟩ => simp [walked, quiet, hm, eq_comm]
    | .value (.error e), .inl refused => simp [Walked, refused]
    | .value (.error e), .inr ⟨_, _, noisy, _⟩ => simp [noisy]
    | .halted (.panic _), ⟨_, dishonest⟩ => exact absurd honest dishonest
    | .halted .pagesExceeded, ⟨_, _, tokens⟩ => simp [Walked, not_exhausted tokens]
  case failed =>
    intro owner failed
    match ending, ends with
    | .value (.ok m), ⟨walked, _, quiet, _⟩ => simp [walked.1, quiet]
    | .value (.error e), .inl refused => simp [Walked, refused]
    | .value (.error e), .inr ⟨walked, _, noisy, he⟩ => simp [walked, walked.1, noisy, he, eq_comm]
    | .halted (.panic _), ⟨_, dishonest⟩ => exact absurd honest dishonest
    | .halted .pagesExceeded, ⟨accepted, _, tokens⟩ =>
      simp [Walked, accepted, not_exhausted tokens]
  case named =>
    intro noisy
    obtain ⟨first, rest, h⟩ := List.exists_cons_of_ne_nil noisy
    exact ⟨first, rest, h, rfl⟩
  case refused =>
    rintro result rfl not_walked
    match result, ends with
    | .ok _, ⟨walked, _⟩ => exact absurd walked not_walked
    | .error e, .inl refused => exact ⟨e, refused, rfl⟩
    | .error e, .inr ⟨walked, _⟩ => exact absurd walked not_walked
  case covered =>
    rintro result rfl accepted
    match result, ends with
    | .ok _, ⟨walked, sent, _⟩ => exact ⟨walked.2, sent⟩
    | .error e, .inl refused => rw [accepted] at refused; cases refused
    | .error e, .inr ⟨walked, sent, _⟩ => exact ⟨walked.2, sent⟩
  case steady =>
    rintro result rfl
    exact emptyBucket_forgiven run
  case stopped =>
    rintro reason rfl
    match reason, ends with
    | .panic _, ⟨_, dishonest⟩ => exact absurd honest dishonest
    | .pagesExceeded, stopped => exact stopped

/-- A store that serves these pages, answers delete requests so, and succeeds otherwise. -/
def walkScript (pages : List (Except Error ObjectPage))
    (deletions : List (Except Error (List DeleteFailure))) : BucketScript where
  listBuckets := []
  createBucket := []
  deleteBucket := []
  awaitPresence := []
  awaitAbsence := []
  listObjectsPage := pages
  deleteObjects := deletions
  putBucketPolicy := []
  putObject := []

/-- Two pages of keys, one of which cannot be deleted. -/
def lockedRun : Trace BucketCall BucketCall.Answer BucketScript (Except Error Nat) :=
  (emptyBucket 2 "photos").run.run BucketScript.answer
    (walkScript [.ok ⟨["a", "locked"], some "locked"⟩, .ok ⟨["z"], none⟩]
      [.ok [⟨"locked", some "AccessDenied", none⟩], .ok []])

theorem emptyBucket_reports_locked :
    Run (emptyBucket 2 "photos").run lockedRun.events lockedRun.ending ∧
      Honest (Event.calls lockedRun.events) ∧
      lockedRun.ending =
        .value (.error (.partialDelete "photos" [⟨"locked", some "AccessDenied", none⟩])) ∧
      EmptyingReport 2 "photos" lockedRun.events lockedRun.ending := by
  have run : Run (emptyBucket 2 "photos").run lockedRun.events lockedRun.ending :=
    run_isRun _ _ _
  have calls : Event.calls lockedRun.events =
      [⟨.listObjectsPage "photos" none, .ok ⟨["a", "locked"], some "locked"⟩⟩,
        ⟨.deleteObjects "photos" ["a", "locked"], .ok [⟨"locked", some "AccessDenied", none⟩]⟩,
        ⟨.listObjectsPage "photos" (some "locked"), .ok ⟨["z"], none⟩⟩,
        ⟨.deleteObjects "photos" ["z"], .ok []⟩] := by
    cbv
  have honest : Honest (Event.calls lockedRun.events) := by
    rw [calls]
    decide
  exact ⟨run, honest, by cbv, emptyBucket_reports run honest⟩

end CloudOps
