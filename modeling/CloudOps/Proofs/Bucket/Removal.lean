import CloudOps.Proofs.Bucket.Emptying

/-!
# A bucket is deleted only when it was emptied

* `emptyBucket_emits`: the walk makes no requests but those that list and delete the objects of the
  bucket, and notes only them.
* `removeBucket_ends`: what the removal of a bucket shows, whichever way it ends.
* `emptyAndRemoveBucket_guarded`: the request to delete the bucket comes once, behind a walk in
  which nothing went wrong, and the wait comes once behind it.
-/

namespace CloudOps

open Program

/-! ## What the walk emits -/

/-- A request of the walk, or a note in front of a delete request. -/
def WalkEvent (bucket : String) : Event BucketCall BucketCall.Answer → Prop
  | .call c answer => BucketExchange.IsWalk bucket ⟨c, answer⟩
  | .note entry => entry.level = .debug

theorem deleteBatch_emits (bucket : String) (tally : Tally) (keys : List String) :
    (deleteBatch bucket tally keys).Emits (WalkEvent bucket) := by
  refine .bind (.log rfl) fun _ => .bind (.perform fun _ => .inr ⟨keys, rfl⟩) fun failures => ?_
  split
  · exact .halt _
  · exact .pure _

theorem deleteBatches_emits (bucket : String) (tally : Tally) (batches : List (List String)) :
    (deleteBatches bucket tally batches).Emits (WalkEvent bucket) := by
  induction batches generalizing tally with
  | nil => exact .pure _
  | cons keys more ih => exact .bind (deleteBatch_emits bucket tally keys) ih

theorem emptyFrom_emits (pages : Nat) (tally : Tally) (lister : ObjectLister) :
    (emptyFrom pages tally lister).Emits (WalkEvent lister.bucket) := by
  induction pages generalizing tally lister with
  | zero =>
    unfold emptyFrom
    split
    · exact .pure _
    · exact .halt _
  | succ pages ih =>
    exact ObjectLister.step_bind_emits (fun _ => .inl ⟨_, rfl⟩) (.pure _) fun page =>
      .bind (deleteBatches_emits lister.bucket tally _) fun counted =>
        ih counted (lister.advance page)

/-- **What the walk emits.** -/
theorem emptyBucket_emits (pages : Nat) (bucket : String) :
    (emptyBucket pages bucket).Emits (WalkEvent bucket) := by
  refine .bind (emptyFrom_emits pages _ _) fun tally => ?_
  intro events ending run
  cases run
  simp

/-! ## The removal -/

/-- The calls that remove a bucket, when the bucket is deleted with this answer. -/
inductive RemovalCalls (bucket : String) : Except Error Unit → List BucketExchange → Prop
  | refused (e : Error) : RemovalCalls bucket (.error e) [⟨.deleteBucket bucket, .error e⟩]
  | awaited (waited : Except Error Unit) :
    RemovalCalls bucket (.ok ()) [⟨.deleteBucket bucket, .ok ()⟩, ⟨.awaitAbsence bucket, waited⟩]

/-- The entry behind a bucket that was deleted and waited for. -/
def deletedEntry (bucket : String) : LogEntry := ⟨.info, "deleted bucket " ++ bucket⟩

/-- The bucket was deleted, and the wait for its absence succeeded. -/
def Removed (bucket : String) (calls : List BucketExchange) : Prop :=
  ⟨.deleteBucket bucket, .ok ()⟩ ∈ calls ∧ ⟨.awaitAbsence bucket, .ok ()⟩ ∈ calls

/-- What a run that removes a bucket shows. -/
structure RemovalEnds (bucket : String) (events : List (Event BucketCall BucketCall.Answer))
    (result : Except Error Unit) : Prop where
  calls : ∃ answer, RemovalCalls bucket answer (Event.calls events)
  returned : result = .ok () ↔ Removed bucket (Event.calls events)
  announced : deletedEntry bucket ∈ Event.entries events ↔ Removed bucket (Event.calls events)

theorem removeBucket_ends {bucket : String} {events : List (Event BucketCall BucketCall.Answer)}
    {ending : Ending (Except Error Unit)} (run : Run (removeBucket bucket).run events ending) :
    ∃ result, ending = .value result ∧ RemovalEnds bucket events result := by
  rcases Action.run_perform_bind_iff.1 run with ⟨e, rfl, rfl⟩ | ⟨_, _, rfl, run₁⟩
  · refine ⟨.error e, rfl, ⟨.error e, .refused e⟩, ?_, ?_⟩ <;>
      simp [Removed, Event.calls, Event.entries]
  obtain ⟨_, rfl, run₂⟩ := Action.run_log_bind_iff.1 run₁
  rcases Action.run_perform_bind_iff.1 run₂ with ⟨e, rfl, rfl⟩ | ⟨_, _, rfl, run₃⟩
  · refine ⟨.error e, rfl, ⟨.ok (), .awaited (.error e)⟩, ?_, ?_⟩ <;>
      simp [Removed, Event.calls, Event.entries, deletedEntry]
  · obtain ⟨rfl, rfl⟩ := Action.run_log_iff.1 run₃
    have removed : Removed bucket
        [⟨.deleteBucket bucket, .ok ()⟩, ⟨.awaitAbsence bucket, .ok ()⟩] := by
      simp [Removed]
    refine ⟨.ok (), rfl, ⟨.ok (), .awaited (.ok ())⟩, iff_of_true rfl removed,
      iff_of_true ?_ removed⟩
    simp [Event.entries, deletedEntry]

/-! ## The report -/

/-- What a run that empties and removes a bucket shows. -/
structure RemovalReport (bucket : String) (events : List (Event BucketCall BucketCall.Answer))
    (ending : Ending (Except Error Nat)) : Prop where
  /-- A bucket is deleted exactly if no request was refused, no failure was reported, and the keys
  sent are those of all pages up to the last. -/
  guarded : (∃ name answer, ⟨.deleteBucket name, answer⟩ ∈ Event.calls events) ↔
    Walked (Event.calls events) ∧ reportedFailures (Event.calls events) = [] ∧
      sentKeys (Event.calls events) = listedKeys (Event.calls events)
  /-- It is the given bucket, and it is deleted once, behind the walk. If that succeeds, one wait
  follows, and otherwise nothing. -/
  placed : ∀ name answer, ⟨.deleteBucket name, answer⟩ ∈ Event.calls events →
    name = bucket ∧ ∃ walk removal, Event.calls events = walk ++ removal ∧
      (∀ x ∈ walk, BucketExchange.IsWalk bucket x) ∧ RemovalCalls bucket answer removal
  /-- If it is not deleted, there is nothing but the walk. -/
  spared : (∀ name answer, ⟨.deleteBucket name, answer⟩ ∉ Event.calls events) →
    ∀ x ∈ Event.calls events, BucketExchange.IsWalk bucket x
  /-- The run succeeds exactly if the bucket was deleted and waited for. -/
  returned : (∃ n, ending = .value (.ok n)) ↔ Removed bucket (Event.calls events)
  /-- Then it gives the number of keys. -/
  counted : ∀ n, ending = .value (.ok n) → n = (listedKeys (Event.calls events)).length
  /-- Only then it notes that the bucket was deleted. -/
  announced : deletedEntry bucket ∈ Event.entries events ↔ Removed bucket (Event.calls events)

theorem honest_of_quiet {calls : List BucketExchange} (quiet : reportedFailures calls = []) :
    Honest calls := by
  intro x hx
  have : x.reported = [] := List.flatMap_eq_nil_iff.1 quiet x hx
  simp [BucketExchange.Overreports, this]

/-- An emptying that does not succeed was refused something, reported a failure or was stopped. -/
theorem EmptyingEnds.not_quiet {pages : Nat} {bucket : String} {calls : List BucketExchange}
    {ending : Ending (Except Error Nat)} (ends : EmptyingEnds pages bucket calls ending)
    (failed : ∀ n, ending ≠ .value (.ok n)) :
    ¬ (Walked calls ∧ reportedFailures calls = []) := by
  rintro ⟨walked, quiet⟩
  match ending, ends with
  | .value (.ok n), _ => exact failed n rfl
  | .value (.error e), .inl refused => rw [walked.1] at refused; cases refused
  | .value (.error e), .inr ⟨_, _, noisy, _⟩ => exact noisy quiet
  | .halted (.panic _), ⟨_, dishonest⟩ => exact dishonest (honest_of_quiet quiet)
  | .halted .pagesExceeded, ⟨_, _, tokens⟩ => exact not_exhausted tokens walked.2

theorem BucketExchange.IsWalk.ne_deleteBucket {bucket : String} {x : BucketExchange}
    (h : x.IsWalk bucket) (name : String) : x.1 ≠ .deleteBucket name := by
  rintro hx
  rcases h with ⟨_, h⟩ | ⟨_, h⟩ <;> rw [hx] at h <;> cases h

theorem BucketExchange.IsWalk.ne_awaitAbsence {bucket : String} {x : BucketExchange}
    (h : x.IsWalk bucket) (name : String) : x.1 ≠ .awaitAbsence name := by
  rintro hx
  rcases h with ⟨_, h⟩ | ⟨_, h⟩ <;> rw [hx] at h <;> cases h

/-- The calls of a run of the walk. -/
theorem isWalk_of_emits {bucket : String} {events : List (Event BucketCall BucketCall.Answer)}
    (emits : ∀ event ∈ events, WalkEvent bucket event) :
    ∀ x ∈ Event.calls events, BucketExchange.IsWalk bucket x :=
  fun _ hx => emits _ (Event.mem_calls.1 hx)

theorem deletedEntry_not_mem {bucket : String}
    {events : List (Event BucketCall BucketCall.Answer)}
    (emits : ∀ event ∈ events, WalkEvent bucket event) :
    deletedEntry bucket ∉ Event.entries events := by
  intro h
  have : (deletedEntry bucket).level = .debug := emits _ (Event.mem_entries.1 h)
  cases this

/-- A run that ends with the walk. -/
theorem RemovalReport.of_walk {bucket : String}
    {events : List (Event BucketCall BucketCall.Answer)} {ending : Ending (Except Error Nat)}
    (emits : ∀ event ∈ events, WalkEvent bucket event)
    (failed : ∀ n, ending ≠ .value (.ok n))
    (noisy : ¬ (Walked (Event.calls events) ∧ reportedFailures (Event.calls events) = [])) :
    RemovalReport bucket events ending := by
  have walk := isWalk_of_emits emits
  have no_delete : ∀ name answer, ⟨.deleteBucket name, answer⟩ ∉ Event.calls events :=
    fun name _ h => (walk _ h).ne_deleteBucket name rfl
  have not_removed : ¬ Removed bucket (Event.calls events) := fun h => no_delete _ _ h.1
  constructor
  case guarded =>
    exact iff_of_false (fun ⟨name, answer, h⟩ => no_delete name answer h)
      fun ⟨walked, quiet, _⟩ => noisy ⟨walked, quiet⟩
  case placed => exact fun name answer h => absurd h (no_delete name answer)
  case spared => exact fun _ => walk
  case returned => exact iff_of_false (fun ⟨n, h⟩ => failed n h) not_removed
  case counted => exact fun n h => absurd h (failed n)
  case announced => exact iff_of_false (deletedEntry_not_mem emits) not_removed

/-- Removing a bucket is no part of a walk. -/
theorem RemovalCalls.silent {bucket : String} {answer : Except Error Unit}
    {removal : List BucketExchange} (h : RemovalCalls bucket answer removal)
    (walk : List BucketExchange) :
    listedPages (walk ++ removal) = listedPages walk ∧
      listedKeys (walk ++ removal) = listedKeys walk ∧
      sentKeys (walk ++ removal) = sentKeys walk ∧
      reportedFailures (walk ++ removal) = reportedFailures walk ∧
      firstRefusal? (walk ++ removal) = firstRefusal? walk := by
  have silent : listedPages removal = [] ∧ listedKeys removal = [] ∧ sentKeys removal = [] ∧
      reportedFailures removal = [] ∧ firstRefusal? removal = none := by
    cases h <;> exact ⟨rfl, rfl, rfl, rfl, rfl⟩
  obtain ⟨pages, keys, sent, failures, refusal⟩ := silent
  rw [listedPages_append, listedKeys_append, sentKeys_append, reportedFailures_append,
    firstRefusal?_append, pages, keys, sent, failures, refusal]
  simp

/-- The deletion of a bucket stands at the head of its removal. -/
theorem RemovalCalls.eq_of_mem {bucket name : String} {answer answer' : Except Error Unit}
    {removal : List BucketExchange} (h : RemovalCalls bucket answer removal)
    (hm : ⟨.deleteBucket name, answer'⟩ ∈ removal) : name = bucket ∧ answer' = answer := by
  cases h with
  | refused e =>
    cases List.mem_singleton.1 hm
    exact ⟨rfl, rfl⟩
  | awaited waited =>
    rcases List.mem_cons.1 hm with h | h
    · cases h
      exact ⟨rfl, rfl⟩
    · cases List.mem_singleton.1 h

theorem RemovalCalls.mem {bucket : String} {answer : Except Error Unit}
    {removal : List BucketExchange} (h : RemovalCalls bucket answer removal) :
    ⟨.deleteBucket bucket, answer⟩ ∈ removal := by
  cases h <;> exact List.mem_cons_self

/-- The entry behind a walk is not the one behind a removal: it is longer. -/
theorem deletedEntry_ne (bucket : String) (n : Nat) :
    deletedEntry bucket ≠ ⟨.info, "deleted " ++ n.repr ++ " objects from " ++ bucket⟩ := by
  intro h
  have lengths := congrArg (fun entry => entry.text.length) h
  have : "deleted bucket ".length = 15 := rfl
  have : "deleted ".length = 8 := rfl
  have : " objects from ".length = 14 := rfl
  simp only [deletedEntry, String.length_append] at lengths
  omega

/-- A walk in front of a removal does not matter to it. -/
theorem removed_append {bucket : String} {walk : List BucketExchange}
    (h : ∀ x ∈ walk, BucketExchange.IsWalk bucket x) (removal : List BucketExchange) :
    Removed bucket (walk ++ removal) ↔ Removed bucket removal := by
  have no_delete : ⟨.deleteBucket bucket, .ok ()⟩ ∉ walk :=
    fun hm => (h _ hm).ne_deleteBucket bucket rfl
  have no_wait : ⟨.awaitAbsence bucket, .ok ()⟩ ∉ walk :=
    fun hm => (h _ hm).ne_awaitAbsence bucket rfl
  simp [Removed, no_delete, no_wait]

/-- A run that goes on behind the walk. -/
theorem RemovalReport.of_removal {bucket : String} {n : Nat}
    {before after : List (Event BucketCall BucketCall.Answer)} {result : Except Error Unit}
    (emits : ∀ event ∈ before, WalkEvent bucket event) (walked : Walked (Event.calls before))
    (quiet : reportedFailures (Event.calls before) = [])
    (sent : sentKeys (Event.calls before) = listedKeys (Event.calls before))
    (count : n = (listedKeys (Event.calls before)).length)
    (ends : RemovalEnds bucket after result) :
    RemovalReport bucket
      (before ++ .note ⟨.info, "deleted " ++ n.repr ++ " objects from " ++ bucket⟩ :: after)
      (.value (result.map fun _ => n)) := by
  obtain ⟨⟨answer, shape⟩, returned, announced⟩ := ends
  have walk := isWalk_of_emits emits
  have calls : Event.calls (before ++
      .note ⟨.info, "deleted " ++ n.repr ++ " objects from " ++ bucket⟩ :: after) =
      Event.calls before ++ Event.calls after := by
    rw [Event.calls_append]
    rfl
  have removed := removed_append walk (Event.calls after)
  obtain ⟨pages, keys, sent', failures, refusal⟩ := shape.silent (Event.calls before)
  constructor
  case guarded =>
    rw [calls]
    refine iff_of_true ⟨bucket, answer, List.mem_append_right _ shape.mem⟩ ⟨⟨?_, ?_⟩, ?_, ?_⟩
    · rw [refusal, walked.1]
    · unfold Exhausted
      rw [pages]
      exact walked.2
    · rw [failures, quiet]
    · rw [sent', keys, sent]
  case placed =>
    intro name answer' h
    rw [calls] at h ⊢
    rcases List.mem_append.1 h with h | h
    · exact absurd rfl ((walk _ h).ne_deleteBucket name)
    · obtain ⟨rfl, rfl⟩ := shape.eq_of_mem h
      exact ⟨rfl, _, _, rfl, walk, shape⟩
  case spared =>
    intro none
    exact absurd (calls ▸ List.mem_append_right _ shape.mem) (none bucket answer)
  case returned =>
    rw [calls, removed, ← returned]
    cases result <;> simp [Except.map]
  case counted =>
    intro m h
    rw [calls, keys, ← count]
    cases result <;> simp_all [Except.map]
  case announced =>
    rw [calls, removed, ← announced, Event.entries_append, List.mem_append, Event.entries,
      List.mem_cons]
    exact ⟨
      fun h => (h.resolve_left (deletedEntry_not_mem emits)).resolve_left (deletedEntry_ne _ _),
      fun h => .inr (.inr h)⟩

/-- **A bucket is deleted only when it was emptied.** Any refused request and any reported failure
keeps the bucket. -/
theorem emptyAndRemoveBucket_guarded {pages : Nat} {bucket : String}
    {events : List (Event BucketCall BucketCall.Answer)} {ending : Ending (Except Error Nat)}
    (run : Run (emptyAndRemoveBucket pages bucket).run events ending) :
    RemovalReport bucket events ending := by
  rcases Action.run_bind_iff.1 run with ⟨reason, walk, rfl⟩ | ⟨e, walk, rfl⟩ |
    ⟨n, before, _, walk, rest₁, rfl⟩
  · exact .of_walk (emptyBucket_emits _ _ _ _ walk) (by simp)
      ((emptyBucket_ends walk).not_quiet (by simp))
  · exact .of_walk (emptyBucket_emits _ _ _ _ walk) (by simp)
      ((emptyBucket_ends walk).not_quiet (by simp))
  -- From here on nothing went wrong in the walk.
  obtain ⟨walked, sent, quiet, count⟩ := emptyBucket_ends walk
  have emits := emptyBucket_emits _ _ _ _ walk
  obtain ⟨after, rfl, rest₂⟩ := Action.run_log_bind_iff.1 rest₁
  have removal : ∃ result, RemovalEnds bucket after result ∧
      ending = .value (result.map fun _ => n) := by
    rcases Action.run_bind_iff.1 rest₂ with ⟨_, removes, _⟩ | ⟨e, removes, rfl⟩ |
      ⟨_, _, _, removes, last, rfl⟩
    · obtain ⟨_, h, _⟩ := removeBucket_ends removes
      cases h
    · obtain ⟨_, h, ends⟩ := removeBucket_ends removes
      cases h
      exact ⟨_, ends, rfl⟩
    · obtain ⟨_, h, ends⟩ := removeBucket_ends removes
      cases h
      cases last
      exact ⟨_, by rwa [List.append_nil], rfl⟩
  obtain ⟨result, ends, rfl⟩ := removal
  exact .of_removal emits walked quiet sent count ends

/-- Two pages of keys that can all be deleted. -/
def removalRun : Trace BucketCall BucketCall.Answer BucketScript (Except Error Nat) :=
  (emptyAndRemoveBucket 2 "photos").run.run BucketScript.answer
    (walkScript [.ok ⟨["a", "b"], some "b"⟩, .ok ⟨["z"], none⟩] [])

theorem emptyAndRemoveBucket_guarded_photos :
    Run (emptyAndRemoveBucket 2 "photos").run removalRun.events removalRun.ending ∧
      removalRun.ending = .value (.ok 3) ∧
      RemovalReport "photos" removalRun.events removalRun.ending := by
  have run : Run (emptyAndRemoveBucket 2 "photos").run removalRun.events removalRun.ending :=
    run_isRun _ _ _
  exact ⟨run, by cbv, emptyAndRemoveBucket_guarded run⟩

end CloudOps
