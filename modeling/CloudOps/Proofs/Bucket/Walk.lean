import CloudOps.Proofs.Bucket.Calls

/-!
# The walk that deletes the objects of a bucket

One lemma for each function of the walk says what its runs are:

* `ObjectLister.step_bind`, `deleteBatch_bind`: one listing request, one delete request.
  `ObjectLister.step_bind_emits`: what a walk emits that makes such a request.
* `deleteBatches_ends`: the delete requests of one page.
* `emptyFrom_ends`: the whole walk. `WalkEnds` says, for every way in which it can end, what its
  calls show: the tally accounts for them (`Accounted`), or one of them was refused, or it was
  stopped.
-/

namespace CloudOps

open Program

/-! ## One request -/

section OneRequest

variable {α : Type} {events : List (Event BucketCall BucketCall.Answer)}
  {ending : Ending (Except Error α)}

/-- A listing request first, and what follows it. -/
theorem ObjectLister.step_bind {lister : ObjectLister} (fresh : lister.done = false)
    (f : Option (List String) × ObjectLister → BucketAction α) :
    (lister.step >>= f).run =
      (.call (.listObjectsPage lister.bucket lister.token) fun
        | .ok page => (f (some page.keys, lister.advance page)).run
        | .error e => .done (.error e) : BucketProgram (Except Error α)) := by
  simp only [ObjectLister.step, ObjectLister.next, fresh]
  show Program.call _ _ = _
  congr
  funext answer
  cases answer <;> rfl

theorem ObjectLister.run_step_bind_iff {lister : ObjectLister} (fresh : lister.done = false)
    {f : Option (List String) × ObjectLister → BucketAction α} :
    Run (lister.step >>= f).run events ending ↔
      (∃ e, events = [.call (.listObjectsPage lister.bucket lister.token) (.error e)] ∧
        ending = .value (.error e)) ∨
      ∃ page : ObjectPage, ∃ rest,
        events = .call (.listObjectsPage lister.bucket lister.token) (.ok page) :: rest ∧
        Run (f (some page.keys, lister.advance page)).run rest ending := by
  rw [step_bind fresh]
  constructor
  · intro run
    cases run with
    | call answer rest =>
      cases answer with
      | error e => cases rest; exact .inl ⟨e, rfl, rfl⟩
      | ok page => exact .inr ⟨page, _, rfl, rest⟩
  · rintro (⟨e, rfl, rfl⟩ | ⟨page, rest, rfl, run⟩)
    · exact .call _ (.done _)
    · exact .call _ run

/-- Behind a page with a token there is more to list. -/
theorem ObjectLister.advance_fresh {lister : ObjectLister} {page : ObjectPage}
    (more : page.nextToken ≠ none) : (lister.advance page).done = false := by
  rw [Bool.eq_false_iff]
  exact mt advance_done_iff.1 more

/-- An exhausted lister makes no request. -/
theorem ObjectLister.run_step_bind_of_done {lister : ObjectLister} (done : lister.done = true)
    (f : Option (List String) × ObjectLister → BucketAction α) :
    (lister.step >>= f).run = (f (none, lister)).run := by
  simp only [ObjectLister.step, ObjectLister.next_of_done done]
  rfl

/-- What is emitted by a step of a walk and what follows it: one listing request, if more is to be
listed, and what follows the page. -/
theorem ObjectLister.step_bind_emits {P : Event BucketCall BucketCall.Answer → Prop}
    {lister : ObjectLister} {f : Option (List String) × ObjectLister → BucketAction α}
    (asks : ∀ answer, P (.call (.listObjectsPage lister.bucket lister.token) answer))
    (ended : (f (none, lister)).Emits P)
    (rest : ∀ page : ObjectPage, (f (some page.keys, lister.advance page)).Emits P) :
    (lister.step >>= f).Emits P := by
  intro events ending run
  cases done : lister.done with
  | true =>
    rw [run_step_bind_of_done done] at run
    exact ended _ _ run
  | false =>
    rcases (run_step_bind_iff done).1 run with ⟨e, rfl, -⟩ | ⟨page, _, rfl, later⟩
    · exact List.forall_mem_singleton.2 (asks _)
    · exact List.forall_mem_cons.2 ⟨asks _, rest page _ _ later⟩

/-- The events of one delete request. -/
def deletionEvents (bucket : String) (keys : List String)
    (answer : Except Error (List DeleteFailure)) : List (Event BucketCall BucketCall.Answer) :=
  [.note ⟨.debug, "deleting " ++ keys.length.repr ++ " objects from " ++ bucket⟩,
    .call (.deleteObjects bucket keys) answer]

/-- A delete request first, and what follows it. -/
theorem deleteBatch_bind (bucket : String) (tally : Tally) (keys : List String)
    (f : Tally → BucketAction α) :
    (deleteBatch bucket tally keys >>= f).run =
      (.note ⟨.debug, "deleting " ++ keys.length.repr ++ " objects from " ++ bucket⟩
        (.call (.deleteObjects bucket keys) fun
          | .error e => .done (.error e)
          | .ok (failures : List DeleteFailure) =>
            if keys.length < failures.length then .halt .countBelowZero
            else (f (tally.add keys.length failures)).run) :
        BucketProgram (Except Error α)) := by
  show Program.note _ (Program.call _ _) = _
  congr
  funext answer
  cases answer with
  | error e => rfl
  | ok failures =>
    show ((if keys.length < List.length failures then Action.halt .countBelowZero
      else pure (tally.add keys.length failures) : BucketAction Tally) >>= f).run = _
    by_cases many : keys.length < List.length failures
    · simp only [if_pos many]; rfl
    · simp only [if_neg many]; rfl

theorem deleteBatch_bind_run_iff {bucket : String} {tally : Tally} {keys : List String}
    {f : Tally → BucketAction α} :
    Run (deleteBatch bucket tally keys >>= f).run events ending ↔
      (∃ e, events = deletionEvents bucket keys (.error e) ∧ ending = .value (.error e)) ∨
      (∃ failures : List DeleteFailure, keys.length < failures.length ∧
        events = deletionEvents bucket keys (.ok failures) ∧
        ending = .halted .countBelowZero) ∨
      ∃ failures : List DeleteFailure, failures.length ≤ keys.length ∧
        ∃ rest, events = deletionEvents bucket keys (.ok failures) ++ rest ∧
          Run (f (tally.add keys.length failures)).run rest ending := by
  rw [deleteBatch_bind]
  constructor
  · intro run
    cases run with
    | note _ run =>
      cases run with
      | call answer run =>
        cases answer with
        | error e => cases run; exact .inl ⟨e, rfl, rfl⟩
        | ok failures =>
          by_cases many : keys.length < List.length failures
          · simp only [if_pos many] at run
            cases run
            exact .inr (.inl ⟨failures, many, rfl, rfl⟩)
          · simp only [if_neg many] at run
            exact .inr (.inr ⟨failures, Nat.not_lt.1 many, _, rfl, run⟩)
  · rintro (⟨e, rfl, rfl⟩ | ⟨failures, many, rfl, rfl⟩ | ⟨failures, few, rest, rfl, run⟩)
    · exact .note _ (.call _ (.done _))
    · refine .note _ (.call _ ?_)
      simp only [if_pos many]
      exact .halt _
    · refine .note _ (.call _ ?_)
      simp only [if_neg (Nat.not_lt.2 few)]
      exact run

end OneRequest

/-! ## The delete requests of a page -/

/-- The calls took one tally to another: none was refused, all reported failures were collected,
and every other key was counted. -/
structure Accounted (tally counted : Tally) (calls : List BucketExchange) : Prop where
  accepted : firstRefusal? calls = none
  failed : counted.failed = tally.failed ++ reportedFailures calls
  deleted : counted.deleted + (reportedFailures calls).length =
    tally.deleted + (sentKeys calls).length

theorem Accounted.refl (tally : Tally) : Accounted tally tally [] := ⟨rfl, by simp, by simp⟩

theorem Accounted.trans {tally counted last : Tally} {before after : List BucketExchange}
    (h : Accounted tally counted before) (h' : Accounted counted last after) :
    Accounted tally last (before ++ after) := by
  refine ⟨?_, ?_, ?_⟩
  · rw [firstRefusal?_append, h.accepted, h'.accepted, Option.or_none]
  · rw [h'.failed, h.failed, reportedFailures_append, List.append_assoc]
  · have := h.deleted
    have := h'.deleted
    simp only [reportedFailures_append, sentKeys_append, List.length_append]
    omega

/-- One delete request that reports no more failures than it was sent keys. -/
theorem Accounted.add (bucket : String) (tally : Tally) {keys : List String}
    {failures : List DeleteFailure} (h : failures.length ≤ keys.length) :
    Accounted tally (tally.add keys.length failures)
      [⟨.deleteObjects bucket keys, .ok failures⟩] := by
  refine ⟨rfl, by simp [Tally.add], ?_⟩
  simp only [Tally.add, reportedFailures_delete_ok, sentKeys_delete, reportedFailures_nil,
    sentKeys_nil, List.append_nil]
  omega

/-- What the calls show when the delete requests for some batches end. -/
def DeletionsEnd (tally : Tally) (batches : List (List String)) (calls : List BucketExchange) :
    Ending (Except Error Tally) → Prop
  | .value (.ok counted) => Accounted tally counted calls ∧ sentKeys calls = batches.flatten
  | .value (.error e) => firstRefusal? calls = some e
  | .halted reason => reason = .countBelowZero ∧ ¬ Honest calls

theorem deleteBatches_ends {bucket : String} {tally : Tally} {batches : List (List String)}
    {events : List (Event BucketCall BucketCall.Answer)} {ending : Ending (Except Error Tally)}
    (run : Run (deleteBatches bucket tally batches).run events ending) :
    listedPages (Event.calls events) = [] ∧
      DeletionsEnd tally batches (Event.calls events) ending := by
  induction batches generalizing tally events with
  | nil =>
    obtain ⟨rfl, rfl⟩ := Action.run_pure_iff.1 run
    exact ⟨rfl, .refl tally, rfl⟩
  | cons keys more ih =>
    rcases deleteBatch_bind_run_iff.1 run with ⟨e, rfl, rfl⟩ | ⟨failures, many, rfl, rfl⟩ |
      ⟨failures, few, rest, rfl, run'⟩
    · exact ⟨rfl, rfl⟩
    · refine ⟨rfl, rfl, fun honest => ?_⟩
      exact honest ⟨.deleteObjects bucket keys, .ok failures⟩ (List.mem_singleton_self _) many
    · obtain ⟨pages, ends⟩ := ih run'
      have first := Accounted.add bucket tally few
      have same : Event.calls (deletionEvents bucket keys (.ok failures) ++ rest) =
          [⟨.deleteObjects bucket keys, .ok failures⟩] ++ Event.calls rest := rfl
      rw [same, listedPages_append, pages]
      refine ⟨rfl, ?_⟩
      match ending, ends with
      | .value (.error e), ends => exact (firstRefusal?_append_of_none first.accepted _).trans ends
      | .value (.ok counted), ⟨accounted, sent⟩ =>
        refine ⟨first.trans accounted, ?_⟩
        rw [sentKeys_append, sent, sentKeys_delete, sentKeys_nil, List.append_nil,
          List.flatten_cons]
      | .halted reason, ⟨below, dishonest⟩ =>
        exact ⟨below, fun honest => dishonest (honest_append.1 honest).2⟩

/-! ## The whole walk -/

/-- What the calls show when a walk through so many pages ends. -/
def WalkEnds (pages : Nat) (tally : Tally) (calls : List BucketExchange) :
    Ending (Except Error Tally) → Prop
  | .value (.ok counted) =>
    Accounted tally counted calls ∧ Exhausted calls ∧ sentKeys calls = listedKeys calls
  | .value (.error e) => firstRefusal? calls = some e
  | .halted (.panic message) => Halt.panic message = .countBelowZero ∧ ¬ Honest calls
  | .halted .pagesExceeded =>
    firstRefusal? calls = none ∧ (listedPages calls).length = pages ∧
      ∀ page ∈ listedPages calls, page.nextToken ≠ none

/-- The calls listed one page and deleted its keys. -/
structure PageDone (tally counted : Tally) (page : ObjectPage) (calls : List BucketExchange) :
    Prop where
  accounted : Accounted tally counted calls
  listed : listedPages calls = [page]
  sent : sentKeys calls = page.keys

/-- Behind a page with a token the walk goes on. -/
theorem WalkEnds.after_page {pages : Nat} {tally counted : Tally} {page : ObjectPage}
    {before rest : List BucketExchange} {ending : Ending (Except Error Tally)}
    (done : PageDone tally counted page before) (more : page.nextToken ≠ none)
    (ends : WalkEnds pages counted rest ending) :
    WalkEnds (pages + 1) tally (before ++ rest) ending := by
  have listed : listedPages (before ++ rest) = page :: listedPages rest := by
    rw [listedPages_append, done.listed, List.singleton_append]
  match ending, ends with
  | .value (.error e), ends =>
    exact (firstRefusal?_append_of_none done.accounted.accepted rest).trans ends
  | .value (.ok last), ⟨accounted, exhausted, sent⟩ =>
    refine ⟨done.accounted.trans accounted, exhausted.of_rest listed more, ?_⟩
    rw [sentKeys_append, done.sent, sent, listedKeys, listedKeys, listed, List.flatMap_cons]
  | .halted (.panic _), ⟨below, dishonest⟩ =>
    exact ⟨below, fun honest => dishonest (honest_append.1 honest).2⟩
  | .halted .pagesExceeded, ⟨accepted, count, tokens⟩ =>
    refine ⟨?_, ?_, ?_⟩
    · rw [firstRefusal?_append_of_none done.accounted.accepted, accepted]
    · rw [listed, List.length_cons, count]
    · rw [listed]
      exact List.forall_mem_cons.2 ⟨more, tokens⟩

/-- Behind the last page nothing is left to list. -/
theorem listObjectsFrom_of_done {lister : ObjectLister} (done : lister.done = true) (pages : Nat)
    (listed : List String) : (listObjectsFrom pages listed lister).run = .done (.ok listed) := by
  cases pages with
  | zero => simp only [listObjectsFrom, done, if_true]; rfl
  | succ pages => exact ObjectLister.run_step_bind_of_done done _

/-- Behind the last page nothing is left to do. -/
theorem emptyFrom_of_done {lister : ObjectLister} (done : lister.done = true) (pages : Nat)
    (tally : Tally) : (emptyFrom pages tally lister).run = .done (.ok tally) := by
  cases pages with
  | zero => simp only [emptyFrom, done, if_true]; rfl
  | succ pages => exact ObjectLister.run_step_bind_of_done done _

/-- **The walk.** What the calls of a walk show, whichever way it ends. -/
theorem emptyFrom_ends {pages : Nat} {tally : Tally} {lister : ObjectLister}
    (fresh : lister.done = false) {events : List (Event BucketCall BucketCall.Answer)}
    {ending : Ending (Except Error Tally)}
    (run : Run (emptyFrom pages tally lister).run events ending) :
    WalkEnds pages tally (Event.calls events) ending := by
  induction pages generalizing tally lister events with
  | zero =>
    simp only [emptyFrom, fresh] at run
    obtain ⟨rfl, rfl⟩ := Action.run_halt_iff.1 run
    exact ⟨rfl, rfl, by simp [Event.calls]⟩
  | succ pages ih =>
    rcases (ObjectLister.run_step_bind_iff fresh).1 run with ⟨e, rfl, rfl⟩ | ⟨page, _, rfl, walk⟩
    · rfl
    rcases Action.run_bind_iff.1 walk with ⟨h, run₁, rfl⟩ | ⟨e, run₁, rfl⟩ |
      ⟨counted, before, after, run₁, run₂, rfl⟩
    · obtain ⟨-, rfl, dishonest⟩ := deleteBatches_ends run₁
      exact ⟨rfl, fun honest => dishonest fun x hx => honest x (List.mem_cons_of_mem _ hx)⟩
    · exact (deleteBatches_ends run₁).2
    obtain ⟨none, accounted, sent⟩ := deleteBatches_ends run₁
    rw [flatten_batches (by decide)] at sent
    let block : List BucketExchange :=
      ⟨.listObjectsPage lister.bucket lister.token, .ok page⟩ :: Event.calls before
    have done : PageDone tally counted page block := by
      refine ⟨⟨accounted.accepted, accounted.failed, accounted.deleted⟩, ?_, sent⟩
      rw [listedPages_list_ok, none]
    have calls : Event.calls (.call (.listObjectsPage lister.bucket lister.token) (.ok page) ::
        (before ++ after)) = block ++ Event.calls after := by
      simp [block, Event.calls]
    rw [calls]
    by_cases last : page.nextToken = .none
    · rw [emptyFrom_of_done (ObjectLister.advance_done_iff.2 last)] at run₂
      cases run₂
      rw [Event.calls, List.append_nil]
      refine ⟨done.accounted, exhausted_of_last done.listed last, ?_⟩
      rw [done.sent, listedKeys, done.listed, List.flatMap_singleton]
    · exact (ih (ObjectLister.advance_fresh last) run₂).after_page done last

end CloudOps
