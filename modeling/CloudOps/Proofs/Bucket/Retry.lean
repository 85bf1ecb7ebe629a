import CloudOps.Proofs.Bucket.Session

/-!
# A lister whose requests fail

A request takes the token out of its lister, and a request that fails does not put it back.

* `ObjectLister.session_split`: a session in two parts.
* `ObjectLister.session_after_failure`: behind a call that failed a session goes on as that of a new
  lister.
* `ObjectLister.session_without_failures`: failures in front of the first page change nothing but
  that they are answered.
* `failed_call_starts_over`: both together. `lister_loses_its_place`: a failure behind the first
  page makes a lister give that page again.
-/

namespace CloudOps

open Program

/-- The event is a request that was refused. -/
def isRefused : Event BucketCall BucketCall.Answer → Bool
  | .call c answer => (BucketExchange.refusal? ⟨c, answer⟩).isSome
  | .note _ => false

namespace ObjectLister

section Session

variable {lister last : ObjectLister} {n : Nat} {answers : List PageAnswer}
  {events : List (Event BucketCall BucketCall.Answer)}

theorem session_length (run : Run (lister.session n) events (.value (answers, last))) :
    answers.length = n := by
  obtain ⟨-, idle, rfl, count, -⟩ := session_ends run
  rw [List.length_append, List.length_map, List.length_replicate, count]

theorem session_add (lister : ObjectLister) (m n : Nat) :
    lister.session (m + n) = (lister.session m).bind fun (answers, place) =>
      (place.session n).bind fun (more, last) => .done (answers ++ more, last) := by
  induction m generalizing lister with
  | zero =>
    rw [Nat.zero_add]
    exact (bind_done _).symm
  | succ m ih =>
    rw [Nat.add_right_comm]
    simp only [session, ih, bind_eq, pure_eq, Program.bind_assoc, done_bind, List.cons_append]

/-- A session in two parts: the second starts at the place to which the first leads. -/
theorem session_split {before after : List PageAnswer}
    (run : Run (lister.session n) events (.value (before ++ after, last))) :
    ∃ place front back, events = front ++ back ∧
      Run (lister.session before.length) front (.value (before, place)) ∧
      Run (place.session after.length) back (.value (after, last)) := by
  have length := session_length run
  rw [List.length_append] at length
  rw [← length, session_add] at run
  rcases run_bind_iff.1 run with ⟨_, _, h⟩ | ⟨⟨before', place⟩, front, _, first, run', rfl⟩
  · cases h
  rcases run_bind_iff.1 run' with ⟨_, _, h⟩ | ⟨⟨after', last'⟩, back, _, second, same, rfl⟩
  · cases h
  obtain ⟨none, same⟩ := run_done_iff.1 same
  have same : (before ++ after, last) = (before' ++ after', last') := Ending.value.inj same
  obtain ⟨whole, rfl⟩ := Prod.mk.inj same
  obtain ⟨rfl, rfl⟩ := List.append_inj whole (session_length first).symm
  exact ⟨place, front, back, by rw [none, List.append_nil], first, second⟩

/-- Behind a call that failed a session goes on as that of a new lister. -/
theorem session_after_failure {before after : List PageAnswer} {e : Error}
    (run : Run (lister.session n) events (.value (before ++ .error e :: after, last))) :
    ∃ place front back,
      events = front ++ .call (.listObjectsPage lister.bucket place.token) (.error e) :: back ∧
      place.bucket = lister.bucket ∧ place.done = false ∧
      Run (lister.session before.length) front (.value (before, place)) ∧
      Run ((start lister.bucket).session after.length) back (.value (after, last)) := by
  obtain ⟨place, front, back, rfl, first, second⟩ := session_split run
  have same : place.bucket = lister.bucket := (session_ends first).follows.bucket_eq
  cases done : place.done with
  | true =>
    rw [session_of_done done] at second
    cases second
  | false =>
    obtain ⟨answer, rest, more, rfl, h, second⟩ := (run_session_succ_iff done).1 second
    cases answer with
    | ok page => cases h
    | error e' =>
      cases h
      rw [← same, ← dropToken_of_fresh done]
      exact ⟨place, front, rest, rfl, rfl, done, first, second⟩

/-- Failures in front of the first page change nothing but that they are answered. -/
theorem session_without_failures
    (run : Run (lister.session n) events (.value (answers, last)))
    (early : ∀ x ∈ Event.calls events, BucketExchange.Refused x →
      x.1 = .listObjectsPage lister.bucket none) :
    Run (lister.session (answers.filter Except.isOk).length) (events.filter (!isRefused ·))
      (.value (answers.filter Except.isOk, last)) := by
  induction n generalizing lister events answers with
  | zero =>
    cases run
    exact .done _
  | succ n ih =>
    cases done : lister.done with
    | true =>
      rw [session_of_done done] at run
      cases run
      have idle : (List.replicate (n + 1) (.ok none : PageAnswer)).filter Except.isOk =
          List.replicate (n + 1) (.ok none) :=
        List.filter_eq_self.2 fun answer h => by rw [List.eq_of_mem_replicate h]; rfl
      rw [idle, List.length_replicate, session_of_done done]
      exact .done _
    | false =>
      obtain ⟨answer, rest, more, rfl, rfl, run'⟩ := (run_session_succ_iff done).1 run
      obtain ⟨now, later⟩ := List.forall_mem_cons.1 early
      cases answer with
      | ok page => exact (run_session_succ_iff done).2 ⟨.ok page, _, _, rfl, rfl, ih run' later⟩
      | error e =>
        -- the lister had no token to lose
        have token : lister.token = none := by simpa using now (Option.some_ne_none e)
        have same : lister.behind (.error e) = lister := dropToken_of_none token
        rw [same] at run'
        rw [List.filter_cons_of_neg, List.filter_cons_of_neg]
        · exact ih run' later
        · exact Bool.false_ne_true
        · exact Bool.false_ne_true

end Session

end ObjectLister

/-! ## The law -/

/-- What a run shows in which a new lister is asked so many times. -/
structure RetryReport (bucket : String) (events : List (Event BucketCall BucketCall.Answer))
    (answers : List PageAnswer) (last : ObjectLister) : Prop where
  /-- A call that failed is in its place, and behind it the requests and the answers are those of
  a new lister. The place was kept only if it was in front of the first page. -/
  restarts : ∀ before e after, answers = before ++ .error e :: after → ∃ place front back,
    events = front ++ .call (.listObjectsPage bucket place.token) (.error e) :: back ∧
      Run ((ObjectLister.start bucket).session before.length) front (.value (before, place)) ∧
      Run ((ObjectLister.start bucket).session after.length) back (.value (after, last)) ∧
      (place = .start bucket ↔ place.token = none)
  /-- When only requests in front of the first page failed, the pages are those of a walk in which
  no request failed. -/
  kept : (∀ x ∈ Event.calls events, BucketExchange.Refused x →
      x.1 = .listObjectsPage bucket none) →
    Run ((ObjectLister.start bucket).session (answers.filter Except.isOk).length)
      (events.filter (!isRefused ·)) (.value (answers.filter Except.isOk, last))

/-- **A call that failed starts the lister over.** -/
theorem failed_call_starts_over {bucket : String} {n : Nat}
    {events : List (Event BucketCall BucketCall.Answer)} {answers : List PageAnswer}
    {last : ObjectLister}
    (asked : Run ((ObjectLister.start bucket).session n) events (.value (answers, last))) :
    RetryReport bucket events answers last := by
  constructor
  case restarts =>
    rintro before e after rfl
    obtain ⟨place, front, back, rfl, same, fresh, first, second⟩ :=
      ObjectLister.session_after_failure asked
    have same : place.bucket = bucket := same
    refine ⟨place, front, back, rfl, first, second, ?_⟩
    rw [← same]
    exact ObjectLister.eq_start_iff fresh
  case kept => exact ObjectLister.session_without_failures asked

/-- The second of three requests fails. -/
def flakyListing : List (Event BucketCall BucketCall.Answer) :=
  [.call (.listObjectsPage "photos" none) (.ok ⟨["a"], some "a"⟩),
    .call (.listObjectsPage "photos" (some "a")) (.error (.io (.text "reset"))),
    .call (.listObjectsPage "photos" none) (.ok ⟨["a"], some "a"⟩)]

theorem failed_call_starts_over_photos :
    Run ((ObjectLister.start "photos").session 3) flakyListing
        (.value ([.ok (some ["a"]), .error (.io (.text "reset")), .ok (some ["a"])],
          ⟨"photos", some "a", false⟩)) ∧
      RetryReport "photos" flakyListing
        [.ok (some ["a"]), .error (.io (.text "reset")), .ok (some ["a"])]
        ⟨"photos", some "a", false⟩ := by
  have asked : Run ((ObjectLister.start "photos").session 3) flakyListing
      (.value ([.ok (some ["a"]), .error (.io (.text "reset")), .ok (some ["a"])],
        ⟨"photos", some "a", false⟩)) :=
    .call _ (.call _ (.call _ (.done _)))
  exact ⟨asked, failed_call_starts_over asked⟩

/-- A call that fails behind the first page does not leave its lister where it was: the next call
gives the first page again. -/
theorem lister_loses_its_place :
    Run ((ObjectLister.start "photos").session 3) flakyListing
        (.value ([.ok (some ["a"]), .error (.io (.text "reset")), .ok (some ["a"])],
          ⟨"photos", some "a", false⟩)) ∧
      ¬ ∀ n events answers place failed e after,
        Run ((ObjectLister.start "photos").session n) events (.value (answers, place)) →
        Run place.next failed (.value (.error e, after)) → after = place := by
  refine ⟨.call _ (.call _ (.call _ (.done _))), fun keeps => ?_⟩
  have first : Run ((ObjectLister.start "photos").session 1)
      [.call (.listObjectsPage "photos" none) (.ok ⟨["a"], some "a"⟩)]
      (.value ([.ok (some ["a"])], ⟨"photos", some "a", false⟩)) :=
    .call _ (.done _)
  have second : Run (ObjectLister.next ⟨"photos", some "a", false⟩)
      [.call (.listObjectsPage "photos" (some "a")) (.error (.io (.text "reset")))]
      (.value (.error (.io (.text "reset")), .start "photos")) :=
    .call _ (.done _)
  exact absurd (keeps _ _ _ _ _ _ _ first second) (by decide)

end CloudOps
