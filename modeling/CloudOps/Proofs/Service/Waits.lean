import CloudOps.Proofs.Service.Failures

/-!
# Waits for a bucket that fail

* `BucketService.Waits`: the operations that wait for a bucket to be there or to be gone.
* `FailedWaits`: what their caller gets when the wait fails.
* `failed_polls_lose_their_kind`: a poll that fails ends the wait with a failure of no particular
  kind, although the same failure of a request has one. `failed_poll_kind_iff` says when the two
  agree.
-/

namespace CloudOps

open Program ServiceExchange

/-- The exchange is a wait that failed so. -/
def ServiceExchange.GaveUp (x : ServiceExchange) (failure : WaitFailure) : Prop :=
  ∃ presence address seconds, x = ⟨.wait presence address seconds, .error failure⟩

theorem ServiceExchange.GaveUp.failure? {x : ServiceExchange} {failure : WaitFailure}
    (gaveUp : x.GaveUp failure) : x.failure? = some failure.error := by
  obtain ⟨_, _, _, rfl⟩ := gaveUp
  rfl

/-- The operation waits for the bucket, alone or behind a request. -/
inductive BucketService.Waits (service : BucketService) (bucket : String) :
    ServiceAction Unit → Prop
  | await (presence : Presence) : Waits service bucket (service.await presence bucket)
  | make : Waits service bucket (service.run (makeBucket bucket))
  | remove : Waits service bucket (service.run (removeBucket bucket))

theorem BucketService.Waits.relays {service : BucketService} {bucket : String}
    {a : ServiceAction Unit} (waits : service.Waits bucket a) : Relays a := by
  cases waits with
  | await presence => exact service.await_relays presence bucket
  | make => exact (Operation.makeBucket bucket).relays service
  | remove => exact (Operation.removeBucket bucket).relays service

/-- A poll that fails is reported with the kind that any other request would have exactly if a
service refused it, and its code is in neither table. -/
theorem failed_poll_kind_iff (failure : RequestFailure) :
    (WaitFailure.request failure).error.kind = failure.error.kind ↔
      ∃ code message, failure = .service code message ∧ ∀ known, code = some known →
        known ∉ ErrorKind.notFoundCodes ∧ known ∉ ErrorKind.transientCodes := by
  have none_kept : (WaitFailure.request failure).error.kind = .unknown := rfl
  rw [none_kept, eq_comm]
  cases failure with
  | service code message =>
    rw [RequestFailure.kind_service, ErrorKind.ofCode?_eq_unknown_iff]
    constructor
    · exact fun unlisted => ⟨code, message, rfl, unlisted⟩
    · rintro ⟨_, _, same, unlisted⟩
      cases same
      exact unlisted
  | timeout | dispatch | response | construction => simp [RequestFailure.error]

/-- What the caller gets when a wait fails. -/
structure FailedWaits (service : BucketService) (a : ServiceAction Unit)
    (calls : List ServiceExchange) (ending : Ending (Except Error Unit)) : Prop where
  /-- A wait that runs out of time may be made again. -/
  exceeded : ∀ x ∈ calls, x.GaveUp .exceeded →
    ∃ message, ending = .value (.error (.service .transient none message))
  /-- One that cannot succeed any more is fatal. -/
  stuck : ∀ x ∈ calls, x.GaveUp .stuck →
    ∃ message, ending = .value (.error (.service .fatal none message))
  /-- When a poll fails, neither kind nor code of its failure is kept. -/
  polled : ∀ x ∈ calls, ∀ failure, x.GaveUp (.request failure) → ∃ e, ending = .value (.error e) ∧
    e.kind = .unknown ∧ e.code? = none ∧
    (e.kind = failure.error.kind ↔
      ∃ code message, failure = .service code message ∧ ∀ known, code = some known →
        known ∉ ErrorKind.notFoundCodes ∧ known ∉ ErrorKind.transientCodes)
  /-- Neither are those of a poll that cannot be built. -/
  unsent : ∀ presence, a = service.await presence "" →
    calls = [] ∧ ∃ e, ending = .value (.error e) ∧ e.kind = .unknown ∧ e.code? = none

/-- **Failed polls lose their kind.** -/
theorem failed_polls_lose_their_kind {service : BucketService} {bucket : String}
    {a : ServiceAction Unit} (waits : service.Waits bucket a)
    {events : List (Event ServiceCall ServiceCall.Answer)} {ending : Ending (Except Error Unit)}
    (run : Run a.run events ending) : FailedWaits service a (Event.calls events) ending := by
  have reaches {x : ServiceExchange} (hx : x ∈ Event.calls events) {failure : WaitFailure}
      (gaveUp : x.GaveUp failure) : ending = .value (.error failure.error) :=
    (waits.relays.ending_of_failed run hx gaveUp.failure?).1
  constructor
  case exceeded => exact fun x hx gaveUp => ⟨_, reaches hx gaveUp⟩
  case stuck => exact fun x hx gaveUp => ⟨_, reaches hx gaveUp⟩
  case polled =>
    exact fun x hx failure gaveUp =>
      ⟨_, reaches hx gaveUp, rfl, rfl, failed_poll_kind_iff failure⟩
  case unsent =>
    rintro presence rfl
    obtain ⟨rfl, rfl⟩ := run_done_iff.1 run
    exact ⟨rfl, _, rfl, rfl, rfl⟩

/-- A bucket is made, and nothing comes back from the first poll for it. -/
def unpolledRun : Trace ServiceCall ServiceCall.Answer ServiceScript (Except Error Unit) :=
  (BucketService.run ⟨.virtualHost, 100⟩ (makeBucket "photos")).run.run ServiceScript.answer
    ⟨[.parts ReplyParts.empty], [.failed]⟩

theorem failed_polls_lose_their_kind_photos :
    Run (BucketService.run ⟨.virtualHost, 100⟩ (makeBucket "photos")).run unpolledRun.events
        unpolledRun.ending ∧
      FailedWaits ⟨.virtualHost, 100⟩ (BucketService.run ⟨.virtualHost, 100⟩ (makeBucket "photos"))
        (Event.calls unpolledRun.events) unpolledRun.ending := by
  have run : Run (BucketService.run ⟨.virtualHost, 100⟩ (makeBucket "photos")).run
      unpolledRun.events unpolledRun.ending :=
    run_isRun _ _ _
  exact ⟨run, failed_polls_lose_their_kind .make run⟩

/-- A poll that got no answer is not reported as one that may be made again, as any other request
without an answer is. -/
theorem unanswered_poll_not_transient :
    (∃ x ∈ Event.calls unpolledRun.events,
        ServiceExchange.GaveUp x (.request (.dispatch "poll failed"))) ∧
      (RequestFailure.dispatch "poll failed").error.kind = .transient ∧
      ∃ e, unpolledRun.ending = .value (.error e) ∧ e.kind ≠ .transient := by
  refine ⟨⟨⟨.wait .present ⟨"photos", .virtualHost⟩ 100,
    .error (.request (.dispatch "poll failed"))⟩, ?_, _, _, _, rfl⟩, rfl, _, rfl, by decide⟩
  exact .tail _ (.head _)

end CloudOps
