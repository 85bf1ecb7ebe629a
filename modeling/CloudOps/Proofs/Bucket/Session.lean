import CloudOps.Proofs.Bucket.Calls

/-!
# A lister that is asked again and again

* `ObjectLister.session`: the answers of a lister to so many calls in a row, whatever fails between
  them, and its place behind the last one.
* `ObjectLister.Follows`: the requests that take a lister from one place to another.
* `ObjectLister.session_ends`: what a session shows. Its requests lead from place to place, each of
  them gives an answer, and every further answer is that there are no more pages.
* `FollowsTokens`: the first request carries no token, and a request behind a page carries the token
  of that page.
* `Paging`: the same for the listing requests of a walk that may also delete, read off its pages.
-/

namespace CloudOps

open Program

/-- What a lister answers: the keys of a page, or none when there are no more pages. -/
abbrev PageAnswer := Except Error (Option (List String))

/-- What a lister answers when its request was answered so. -/
def ObjectPage.given (answer : Except Error ObjectPage) : PageAnswer :=
  answer.map fun page => some page.keys

namespace ObjectLister

/-- The place behind a request that was answered so. -/
def behind (lister : ObjectLister) : Except Error ObjectPage → ObjectLister
  | .ok page => lister.advance page
  | .error _ => lister.dropToken

@[simp] theorem behind_bucket (lister : ObjectLister) (answer : Except Error ObjectPage) :
    (lister.behind answer).bucket = lister.bucket := by
  cases answer <;> rfl

/-- A lister that fails at its first page is as it was. -/
theorem dropToken_of_none {lister : ObjectLister} (h : lister.token = none) :
    lister.dropToken = lister := by
  rw [dropToken, ← h]

/-- A lister that is not exhausted is as new if it has no token. -/
theorem eq_start_iff {lister : ObjectLister} (fresh : lister.done = false) :
    lister = .start lister.bucket ↔ lister.token = none := by
  constructor
  · intro new
    rw [new, start]
  · intro none
    rw [start, ← none, ← fresh]

/-- A lister that is not exhausted is as new without its token. -/
theorem dropToken_of_fresh {lister : ObjectLister} (fresh : lister.done = false) :
    lister.dropToken = .start lister.bucket := by
  rw [dropToken, fresh, start]

theorem next_of_fresh {lister : ObjectLister} (fresh : lister.done = false) :
    lister.next = .call (.listObjectsPage lister.bucket lister.token) fun answer =>
      .done (ObjectPage.given answer, lister.behind answer) := by
  simp only [next, fresh, Bool.false_eq_true, if_false, Program.call.injEq, heq_eq_eq, true_and]
  funext answer
  cases answer <;> rfl

/-! ## Sessions -/

/-- The answers to so many calls of `next` in a row, and the place behind them. -/
def session : Nat → ObjectLister → BucketProgram (List PageAnswer × ObjectLister)
  | 0, lister => .done ([], lister)
  | n + 1, lister => do
    let (answer, after) ← lister.next
    let (answers, last) ← session n after
    return (answer :: answers, last)

/-- An exhausted lister makes no request, however often it is asked, and stays as it is. -/
theorem session_of_done {lister : ObjectLister} (done : lister.done = true) (n : Nat) :
    lister.session n = .done (List.replicate n (.ok none), lister) := by
  induction n with
  | zero => rfl
  | succ n ih =>
    simp only [session, next_of_done done, bind_eq, done_bind, ih, pure_eq]
    rfl

section Runs

variable {lister last : ObjectLister} {n : Nat} {answers : List PageAnswer}
  {events : List (Event BucketCall BucketCall.Answer)}

/-- Every session comes to an end. -/
theorem session_returns {ending : Ending (List PageAnswer × ObjectLister)}
    (run : Run (lister.session n) events ending) :
    ∃ answers last, ending = .value (answers, last) := by
  induction n generalizing lister events ending with
  | zero =>
    cases run
    exact ⟨_, _, rfl⟩
  | succ n ih =>
    cases done : lister.done with
    | true =>
      rw [session_of_done done] at run
      cases run
      exact ⟨_, _, rfl⟩
    | false =>
      simp only [session, next_of_fresh done, bind_eq, call_bind, done_bind] at run
      cases run with
      | call answer run =>
        rcases run_bind_iff.1 run with ⟨_, run', rfl⟩ | ⟨_, _, _, -, run', -⟩
        · obtain ⟨_, _, h⟩ := ih run'
          cases h
        · cases run'
          exact ⟨_, _, rfl⟩

/-- The first call of a session requests a page. -/
theorem run_session_succ_iff (fresh : lister.done = false) :
    Run (lister.session (n + 1)) events (.value (answers, last)) ↔
      ∃ answer : Except Error ObjectPage, ∃ rest more,
        events = .call (.listObjectsPage lister.bucket lister.token) answer :: rest ∧
        answers = ObjectPage.given answer :: more ∧
        Run ((lister.behind answer).session n) rest (.value (more, last)) := by
  simp only [session, next_of_fresh fresh, bind_eq, call_bind, done_bind]
  constructor
  · intro run
    cases run with
    | call answer run =>
      rcases run_bind_iff.1 run with ⟨_, _, h⟩ | ⟨⟨more, after⟩, rest, _, run₁, run₂, rfl⟩
      · cases h
      · cases run₂
        exact ⟨answer, rest, more, by rw [List.append_nil], rfl, run₁⟩
  · rintro ⟨answer, rest, more, rfl, rfl, run⟩
    exact .call _ (run_bind_iff.2 (.inr ⟨_, rest, [], run, .done _, (List.append_nil _).symm⟩))

end Runs

/-! ## From place to place -/

/-- These requests take a lister from one place to another. -/
inductive Follows : ObjectLister → List BucketExchange → ObjectLister → Prop
  | stay (lister : ObjectLister) : Follows lister [] lister
  | request {lister last : ObjectLister} {calls : List BucketExchange}
      (answer : Except Error ObjectPage) (fresh : lister.done = false)
      (rest : Follows (lister.behind answer) calls last) :
      Follows lister (⟨.listObjectsPage lister.bucket lister.token, answer⟩ :: calls) last

end ObjectLister

/-- What a lister answers behind a request. -/
def BucketExchange.pageAnswer : BucketExchange → PageAnswer
  | ⟨.listObjectsPage _ _, answer⟩ => ObjectPage.given answer
  | _ => .ok none

/-- The first request carries no token, and behind a page comes a request only if the page has a
token, and the request carries it. -/
structure FollowsTokens (bucket : String) (calls : List BucketExchange) : Prop where
  first : ∀ x rest, calls = x :: rest → x.1 = .listObjectsPage bucket none
  next : ∀ before x page y rest, calls = before ++ x :: y :: rest → x.page? = some page →
    ∃ token, page.nextToken = some token ∧ y.1 = .listObjectsPage bucket (some token)

/-- The listing requests among the calls follow the tokens of their pages, from a token on. -/
structure Paging (token : Option String) (calls : List BucketExchange) : Prop where
  tokens : requestedTokens calls <+: token :: (listedPages calls).map ObjectPage.nextToken
  /-- Every page but the last has a token. -/
  more : ∀ page ∈ (listedPages calls).dropLast, page.nextToken ≠ none

section Paging

variable {bucket : String} {token : Option String} {page : ObjectPage}
  {own rest : List BucketExchange}

theorem Paging.nil : Paging token [] where
  tokens := List.nil_prefix
  more := List.forall_mem_nil _

theorem Paging.refused (e : Error) : Paging token [⟨.listObjectsPage bucket token, .error e⟩] where
  tokens := List.prefix_rfl
  more := List.forall_mem_nil _

/-- A page that no other follows. -/
theorem Paging.last (tokens : requestedTokens own = []) (pages : listedPages own = []) :
    Paging token (⟨.listObjectsPage bucket token, .ok page⟩ :: own) where
  tokens := by
    rw [requestedTokens_list, tokens]
    exact List.cons_prefix_cons.2 ⟨rfl, List.nil_prefix⟩
  more := by
    rw [listedPages_list_ok, pages]
    exact List.forall_mem_nil _

/-- A page with a token, and the requests from there on. -/
theorem Paging.step (tokens : requestedTokens own = []) (pages : listedPages own = [])
    (more : page.nextToken ≠ none) (paging : Paging page.nextToken rest) :
    Paging token (⟨.listObjectsPage bucket token, .ok page⟩ :: own ++ rest) where
  tokens := by
    rw [List.cons_append, requestedTokens_list, listedPages_list_ok, requestedTokens_append, tokens,
      listedPages_append, pages]
    exact List.cons_prefix_cons.2 ⟨rfl, paging.tokens⟩
  more := by
    rw [List.cons_append, listedPages_list_ok, listedPages_append, pages, List.nil_append]
    have later := paging.more
    generalize listedPages rest = pages at later ⊢
    cases pages with
    | nil => exact List.forall_mem_nil _
    | cons next pages => exact List.forall_mem_cons.2 ⟨more, later⟩

end Paging

namespace ObjectLister

section Follows

variable {lister last : ObjectLister} {calls : List BucketExchange}

/-- An exhausted lister goes nowhere. -/
theorem Follows.of_done (follows : Follows lister calls last) (done : lister.done = true) :
    calls = [] ∧ last = lister := by
  cases follows with
  | stay => exact ⟨rfl, rfl⟩
  | request answer fresh rest => simp [done] at fresh

/-- Behind a page without a token a lister is exhausted. -/
theorem Follows.done_of_mem (follows : Follows lister calls last) {page : ObjectPage}
    (h : page ∈ listedPages calls) (final : page.nextToken = none) : last.done = true := by
  induction follows with
  | stay => cases h
  | @request lister last calls answer fresh rest ih =>
    cases answer with
    | error e => exact ih h
    | ok first =>
      rcases List.mem_cons.1 h with rfl | h
      · obtain ⟨-, rfl⟩ := rest.of_done (advance_done_iff.2 final)
        exact advance_done_iff.2 final
      · exact ih h

theorem Follows.bucket_eq (follows : Follows lister calls last) : last.bucket = lister.bucket := by
  induction follows with
  | stay => rfl
  | request answer fresh rest ih => exact ih.trans (behind_bucket _ answer)

/-- Requests that come in two parts lead to a place between them. -/
theorem Follows.of_append {before rest : List BucketExchange}
    (follows : Follows lister (before ++ rest) last) :
    ∃ place, Follows lister before place ∧ Follows place rest last := by
  induction before generalizing lister with
  | nil => exact ⟨lister, .stay lister, follows⟩
  | cons x before ih =>
    cases follows with
    | request answer fresh follows =>
      obtain ⟨place, first, second⟩ := ih follows
      exact ⟨place, .request answer fresh first, second⟩

theorem Follows.followsTokens {bucket : String} (follows : Follows (.start bucket) calls last) :
    FollowsTokens bucket calls := by
  constructor
  case first =>
    rintro x rest rfl
    cases follows
    rfl
  case next =>
    rintro before x page y rest rfl given
    obtain ⟨place, first, follows⟩ := follows.of_append
    cases follows with
    | request answer fresh follows =>
      cases answer with
      | error e => cases given
      | ok served =>
        cases given
        cases follows with
        | request answer fresh' follows =>
          obtain ⟨token, h⟩ : ∃ token, page.nextToken = some token :=
            Option.ne_none_iff_exists'.1 fun none =>
              Bool.false_ne_true (fresh'.symm.trans (advance_done_iff.2 none))
          refine ⟨token, h, ?_⟩
          show BucketCall.listObjectsPage place.bucket page.nextToken = _
          rw [first.bucket_eq, h]
          rfl

/-- Requests that are not refused. -/
theorem Follows.paging (follows : Follows lister calls last)
    (accepted : firstRefusal? calls = none) : Paging lister.token calls := by
  induction follows with
  | stay => exact .nil
  | request answer fresh rest ih =>
    cases answer with
    | error e => cases accepted
    | ok page =>
      by_cases final : page.nextToken = none
      · obtain ⟨rfl, -⟩ := rest.of_done (advance_done_iff.2 final)
        exact .last rfl rfl
      · exact .step requestedTokens_nil listedPages_nil final (ih accepted)

/-- All of them list the bucket. -/
theorem Follows.listing (follows : Follows lister calls last) :
    ∀ x ∈ calls, ∃ token, x.1 = .listObjectsPage lister.bucket token := by
  induction follows with
  | stay => exact List.forall_mem_nil _
  | request answer fresh rest ih =>
    rw [behind_bucket] at ih
    exact List.forall_mem_cons.2 ⟨⟨_, rfl⟩, ih⟩

end Follows

/-- What a session shows. -/
structure SessionEnds (lister : ObjectLister) (n : Nat) (calls : List BucketExchange)
    (answers : List PageAnswer) (last : ObjectLister) : Prop where
  follows : Follows lister calls last
  /-- Every request gives its answer, and every further answer is that there are no more pages. -/
  answered : ∃ idle,
    answers = calls.map BucketExchange.pageAnswer ++ List.replicate idle (.ok none) ∧
    calls.length + idle = n ∧ (idle ≠ 0 → last.done = true)

theorem session_ends {lister last : ObjectLister} {n : Nat} {answers : List PageAnswer}
    {events : List (Event BucketCall BucketCall.Answer)}
    (run : Run (lister.session n) events (.value (answers, last))) :
    SessionEnds lister n (Event.calls events) answers last := by
  induction n generalizing lister events answers with
  | zero =>
    cases run
    exact ⟨.stay _, 0, rfl, rfl, fun h => absurd rfl h⟩
  | succ n ih =>
    cases done : lister.done with
    | true =>
      rw [session_of_done done] at run
      cases run
      exact ⟨.stay _, n + 1, rfl, Nat.zero_add _, fun _ => done⟩
    | false =>
      obtain ⟨answer, rest, more, rfl, rfl, run'⟩ := (run_session_succ_iff done).1 run
      obtain ⟨follows, idle, rfl, count, exhausted⟩ := ih run'
      refine ⟨.request answer done follows, idle, rfl, ?_, exhausted⟩
      show (Event.calls rest).length + 1 + idle = n + 1
      omega

end ObjectLister

end CloudOps
