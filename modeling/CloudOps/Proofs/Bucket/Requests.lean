import CloudOps.Proofs.Bucket.Session
import CloudOps.Proofs.Bucket.Walk
import Mathlib.Data.List.Chain

/-!
# The requests of a walk that deletes

* `length_batches`: how many batches there are.
* `PageRequests`: what the delete requests of one page are.
* `PageWalk`: how the calls of a walk are made up of the pages and their delete requests.
  `PlaceWalk` is the same from a place on, with the token of every listing request.
* `deleteBatches_requests`, `emptyFrom_requests`: the calls of every run are made up so.
* `PlaceWalk.paging`, `PageWalk.ordered`, `PageWalk.skips`: the tokens that a walk requests with,
  and the keys that it sends.
* `emptyBucket_requests`: with it, no delete request is empty or too large, every page is covered,
  and nothing follows a request that fails.
-/

namespace CloudOps

open Program

/-- The number of batches: the length divided by the size, rounded up. -/
theorem length_batches {α : Type} {size : Nat} (positive : 0 < size) (list : List α) :
    (batches size list).length = (list.length + size - 1) / size := by
  fun_induction batches size list with
  | case1 list h =>
    rcases h with rfl | rfl
    · rw [List.length_nil, List.length_nil, Nat.zero_add, Nat.div_eq_of_lt (by omega)]
    · omega
  | case2 list nonempty shorter ih =>
    have : 0 < list.length := List.length_pos_iff.2 fun e => nonempty (.inl e)
    rw [List.length_cons, ih, List.length_drop]
    by_cases short : list.length ≤ size
    · have only : list.length + size - 1 = list.length - 1 + size := by omega
      rw [only, Nat.add_div_right _ positive, Nat.div_eq_of_lt (by omega),
        Nat.div_eq_of_lt (by omega)]
    · have more : list.length + size - 1 = list.length - size + size - 1 + size := by omega
      rw [more, Nat.add_div_right _ positive]

namespace BucketExchange

/-- The request failed: it was refused, or it reported more failures than it was sent keys, which
ends the program. -/
def Fails (x : BucketExchange) : Prop := x.Refused ∨ x.Overreports

theorem fails_delete_iff {bucket : String} {keys : List String} {failures : List DeleteFailure} :
    Fails ⟨.deleteObjects bucket keys, .ok failures⟩ ↔ keys.length < failures.length := by
  constructor
  · rintro (refused | many)
    · exact absurd rfl refused
    · exact many
  · exact .inr

theorem not_fails_list {bucket : String} {token : Option String} {page : ObjectPage} :
    ¬ Fails ⟨.listObjectsPage bucket token, .ok page⟩ := by
  rintro (refused | many)
  · exact refused rfl
  · exact Nat.lt_irrefl 0 many

end BucketExchange

open BucketExchange

/-- Calls of which none fails. -/
theorem accepted_of_not_fails {calls : List BucketExchange} (none : ∀ x ∈ calls, ¬ x.Fails) :
    firstRefusal? calls = .none ∧ Honest calls :=
  ⟨List.findSome?_eq_none_iff.2 fun x hx => not_not.1 fun refused => none x hx (.inl refused),
    fun x hx many => none x hx (.inr many)⟩

/-! ## The delete requests of a page -/

/-- The calls are delete requests for the batches in order, up to one that fails. -/
structure BatchRequests (bucket : String) (batches : List (List String))
    (calls : List BucketExchange) : Prop where
  deletions : ∀ x ∈ calls, ∃ keys ∈ batches, x.1 = .deleteObjects bucket keys
  ordered : calls.map sent <+: batches
  complete : (∀ x ∈ calls, ¬ x.Fails) → calls.map sent = batches
  stops : StopsAt Fails calls

theorem BatchRequests.nil (bucket : String) : BatchRequests bucket [] [] where
  deletions := List.forall_mem_nil _
  ordered := List.prefix_rfl
  complete := fun _ => rfl
  stops := stopsAt_nil

/-- A request that fails is the last. -/
theorem BatchRequests.of_fails {bucket : String} {keys : List String} {more : List (List String)}
    {answer : Except Error (List DeleteFailure)}
    (fails : Fails ⟨.deleteObjects bucket keys, answer⟩) :
    BatchRequests bucket (keys :: more) [⟨.deleteObjects bucket keys, answer⟩] where
  deletions := List.forall_mem_singleton.2 ⟨keys, List.mem_cons_self, rfl⟩
  ordered := ⟨more, rfl⟩
  complete := fun none => absurd fails (none _ (List.mem_singleton_self _))
  stops := stopsAt_singleton _

/-- Behind a request that succeeds come those for the other batches. -/
theorem BatchRequests.cons {bucket : String} {keys : List String} {more : List (List String)}
    {failures : List DeleteFailure} {calls : List BucketExchange}
    (few : failures.length ≤ keys.length) (rest : BatchRequests bucket more calls) :
    BatchRequests bucket (keys :: more) (⟨.deleteObjects bucket keys, .ok failures⟩ :: calls) where
  deletions := List.forall_mem_cons.2 ⟨⟨keys, List.mem_cons_self, rfl⟩, fun x hx =>
    let ⟨own, h, same⟩ := rest.deletions x hx
    ⟨own, List.mem_cons_of_mem _ h, same⟩⟩
  ordered := List.cons_prefix_cons.2 ⟨rfl, rest.ordered⟩
  complete := fun none =>
    congrArg (keys :: ·) (rest.complete fun x hx => none x (List.mem_cons_of_mem _ hx))
  stops := rest.stops.cons (mt fails_delete_iff.1 (Nat.not_lt.2 few))

theorem deleteBatches_requests {bucket : String} {tally : Tally} {batches : List (List String)}
    {events : List (Event BucketCall BucketCall.Answer)} {ending : Ending (Except Error Tally)}
    (run : Run (deleteBatches bucket tally batches).run events ending) :
    BatchRequests bucket batches (Event.calls events) ∧
      ((∃ counted, ending = .value (.ok counted)) ↔ ∀ x ∈ Event.calls events, ¬ Fails x) := by
  induction batches generalizing tally events with
  | nil =>
    obtain ⟨rfl, rfl⟩ := Action.run_pure_iff.1 run
    exact ⟨.nil bucket, fun _ => List.forall_mem_nil _, fun _ => ⟨tally, rfl⟩⟩
  | cons keys more ih =>
    rcases deleteBatch_bind_run_iff.1 run with ⟨e, rfl, rfl⟩ | ⟨failures, many, rfl, rfl⟩ |
      ⟨failures, few, rest, rfl, run'⟩
    · have fails : Fails ⟨.deleteObjects bucket keys, .error e⟩ := .inl (Option.some_ne_none e)
      exact ⟨.of_fails fails, nofun, fun none => absurd fails (none _ (List.mem_singleton_self _))⟩
    · have fails : Fails ⟨.deleteObjects bucket keys, .ok failures⟩ := fails_delete_iff.2 many
      exact ⟨.of_fails fails, nofun, fun none => absurd fails (none _ (List.mem_singleton_self _))⟩
    · obtain ⟨requests, succeeded⟩ := ih run'
      have first : ¬ Fails ⟨.deleteObjects bucket keys, .ok failures⟩ :=
        mt fails_delete_iff.1 (Nat.not_lt.2 few)
      refine ⟨requests.cons few, succeeded.trans ⟨fun others => ?_, fun none => ?_⟩⟩
      · exact List.forall_mem_cons.2 ⟨first, others⟩
      · exact (List.forall_mem_cons.1 none).2

/-- What the delete requests of a page are. -/
structure PageRequests (bucket : String) (page : ObjectPage) (requests : List BucketExchange) :
    Prop where
  /-- None is empty, and none has more than 1000 keys. -/
  limited : ∀ x ∈ requests, ∃ keys, x.1 = .deleteObjects bucket keys ∧
    1 ≤ keys.length ∧ keys.length ≤ 1000
  /-- They are sent the keys of the page in order, from the first one on. -/
  ordered : sentKeys requests <+: page.keys
  /-- If none fails they are sent all keys of the page, and are no more than are needed. -/
  complete : (∀ x ∈ requests, ¬ x.Fails) →
    sentKeys requests = page.keys ∧ requests.length = (page.keys.length + 999) / 1000
  /-- One that fails is the last. -/
  stops : StopsAt Fails requests

theorem BatchRequests.pageRequests {bucket : String} {page : ObjectPage}
    {requests : List BucketExchange}
    (h : BatchRequests bucket (batches deleteLimit page.keys) requests) :
    PageRequests bucket page requests where
  limited := fun x hx =>
    let ⟨keys, own, same⟩ := h.deletions x hx
    ⟨keys, same, length_of_mem_batches own⟩
  ordered := by
    obtain ⟨more, whole⟩ := h.ordered
    refine ⟨more.flatten, ?_⟩
    rw [sentKeys, List.flatMap_def, ← List.flatten_append, whole, flatten_batches (by decide)]
  complete := by
    intro none
    have same := h.complete none
    constructor
    case left => rw [sentKeys, List.flatMap_def, same, flatten_batches (by decide)]
    case right => rw [← List.length_map sent, same, length_batches (by decide)]; rfl
  stops := h.stops

/-! ## The walk -/

/-- How the calls of a walk are made up. -/
inductive PageWalk (bucket : String) : List BucketExchange → Prop
  /-- Nothing more is requested. -/
  | finish : PageWalk bucket []
  /-- The next page is refused. -/
  | refused (token : Option String) (e : Error) :
    PageWalk bucket [⟨.listObjectsPage bucket token, .error e⟩]
  /-- A page is given, and one of its delete requests fails. -/
  | broken (token : Option String) {page : ObjectPage} {requests : List BucketExchange}
      (own : PageRequests bucket page requests) (fails : ∃ x ∈ requests, x.Fails) :
    PageWalk bucket (⟨.listObjectsPage bucket token, .ok page⟩ :: requests)
  /-- A page is given, all its delete requests succeed, and the walk goes on. -/
  | page (token : Option String) {page : ObjectPage} {requests rest : List BucketExchange}
      (own : PageRequests bucket page requests) (succeeded : ∀ x ∈ requests, ¬ x.Fails)
      (walk : PageWalk bucket rest) :
    PageWalk bucket (⟨.listObjectsPage bucket token, .ok page⟩ :: requests ++ rest)

/-- Nothing follows a request of a walk that fails. -/
theorem PageWalk.stops {bucket : String} {calls : List BucketExchange}
    (walk : PageWalk bucket calls) : StopsAt Fails calls := by
  induction walk with
  | finish => exact stopsAt_nil
  | refused => exact stopsAt_singleton _
  | broken token own fails => exact own.stops.cons not_fails_list
  | page token own succeeded walk ih =>
    exact ih.append (List.forall_mem_cons.2 ⟨not_fails_list, succeeded⟩)

/-- The delete requests of a walk are those of its pages. -/
theorem PageWalk.limited {bucket : String} {calls : List BucketExchange}
    (walk : PageWalk bucket calls) {x : BucketExchange} (hx : x ∈ calls) {owner : String}
    {keys : List String} (deletion : x.1 = .deleteObjects owner keys) :
    owner = bucket ∧ 1 ≤ keys.length ∧ keys.length ≤ 1000 := by
  have of_page {page : ObjectPage} {requests : List BucketExchange}
      (own : PageRequests bucket page requests) (hx : x ∈ requests) :
      owner = bucket ∧ 1 ≤ keys.length ∧ keys.length ≤ 1000 := by
    obtain ⟨own, h, limits⟩ := own.limited x hx
    rw [h] at deletion
    cases deletion
    exact ⟨rfl, limits⟩
  induction walk with
  | finish => cases hx
  | refused =>
    rw [List.mem_singleton.1 hx] at deletion
    cases deletion
  | broken token own fails =>
    rcases List.mem_cons.1 hx with rfl | hx
    · cases deletion
    · exact of_page own hx
  | page token own succeeded walk ih =>
    rcases List.mem_append.1 hx with hx | hx
    · rcases List.mem_cons.1 hx with rfl | hx
      · cases deletion
      · exact of_page own hx
    · exact ih hx

/-- How the calls of a walk from a place on are made up. -/
inductive PlaceWalk : ObjectLister → List BucketExchange → Prop
  | finish (lister : ObjectLister) : PlaceWalk lister []
  | refused (lister : ObjectLister) (e : Error) :
    PlaceWalk lister [⟨.listObjectsPage lister.bucket lister.token, .error e⟩]
  | broken (lister : ObjectLister) {page : ObjectPage} {requests : List BucketExchange}
      (own : PageRequests lister.bucket page requests) (fails : ∃ x ∈ requests, x.Fails) :
    PlaceWalk lister (⟨.listObjectsPage lister.bucket lister.token, .ok page⟩ :: requests)
  | page (lister : ObjectLister) {page : ObjectPage} {requests rest : List BucketExchange}
      (own : PageRequests lister.bucket page requests) (succeeded : ∀ x ∈ requests, ¬ x.Fails)
      (final : page.nextToken = none → rest = []) (walk : PlaceWalk (lister.advance page) rest) :
    PlaceWalk lister
      (⟨.listObjectsPage lister.bucket lister.token, .ok page⟩ :: requests ++ rest)

theorem emptyFrom_requests {pages : Nat} {tally : Tally} {lister : ObjectLister}
    {events : List (Event BucketCall BucketCall.Answer)} {ending : Ending (Except Error Tally)}
    (run : Run (emptyFrom pages tally lister).run events ending) :
    PlaceWalk lister (Event.calls events) ∧ (lister.done = true → Event.calls events = []) := by
  induction pages generalizing tally lister events with
  | zero =>
    cases done : lister.done with
    | true =>
      rw [emptyFrom_of_done done] at run
      cases run
      exact ⟨.finish lister, fun _ => rfl⟩
    | false =>
      simp only [emptyFrom, done] at run
      rw [(Action.run_halt_iff.1 run).1]
      exact ⟨.finish lister, fun _ => rfl⟩
  | succ pages ih =>
    cases done : lister.done with
    | true =>
      rw [emptyFrom_of_done done] at run
      cases run
      exact ⟨.finish lister, fun _ => rfl⟩
    | false =>
      refine ⟨?_, fun h => absurd h (by simp)⟩
      rcases (ObjectLister.run_step_bind_iff done).1 run with ⟨e, rfl, -⟩ | ⟨page, _, rfl, walk⟩
      · exact .refused lister e
      rcases Action.run_bind_iff.1 walk with ⟨_, run₁, -⟩ | ⟨e, run₁, -⟩ |
        ⟨counted, before, after, run₁, run₂, rfl⟩
      -- a request that halts the walk or is refused breaks its page off
      · obtain ⟨requests, succeeded⟩ := deleteBatches_requests run₁
        exact .broken lister requests.pageRequests (by simpa using succeeded)
      · obtain ⟨requests, succeeded⟩ := deleteBatches_requests run₁
        exact .broken lister requests.pageRequests (by simpa using succeeded)
      · obtain ⟨requests, succeeded⟩ := deleteBatches_requests run₁
        obtain ⟨walk, final⟩ := ih run₂
        have calls : Event.calls (.call (.listObjectsPage lister.bucket lister.token) (.ok page) ::
            (before ++ after)) = ⟨.listObjectsPage lister.bucket lister.token, .ok page⟩ ::
              Event.calls before ++ Event.calls after := by
          simp [Event.calls]
        rw [calls]
        exact .page lister requests.pageRequests (succeeded.1 ⟨counted, rfl⟩)
          (fun none => final (ObjectLister.advance_done_iff.2 none)) walk

theorem PlaceWalk.pageWalk {lister : ObjectLister} {calls : List BucketExchange}
    (walk : PlaceWalk lister calls) : PageWalk lister.bucket calls := by
  induction walk with
  | finish => exact .finish
  | refused lister e => exact .refused _ e
  | broken lister own fails => exact .broken _ own fails
  | page lister own succeeded final walk ih => exact .page _ own succeeded ih

/-- Delete requests list nothing. -/
theorem PageRequests.silent {bucket : String} {page : ObjectPage} {requests : List BucketExchange}
    (own : PageRequests bucket page requests) :
    requestedTokens requests = [] ∧ listedPages requests = [] := by
  have neither : ∀ x ∈ requests, x.token? = none ∧ x.page? = none := by
    intro x hx
    obtain ⟨keys, h, -⟩ := own.limited x hx
    obtain ⟨_, answer⟩ := x
    cases h
    exact ⟨rfl, rfl⟩
  exact ⟨List.filterMap_eq_nil_iff.2 fun x hx => (neither x hx).1,
    List.filterMap_eq_nil_iff.2 fun x hx => (neither x hx).2⟩

theorem PageRequests.keyless {bucket : String} {page : ObjectPage} {requests : List BucketExchange}
    (own : PageRequests bucket page requests) : listedKeys requests = [] := by
  rw [listedKeys, own.silent.2, List.flatMap_nil]

/-- The listing requests of a walk follow the tokens of its pages. -/
theorem PlaceWalk.paging {lister : ObjectLister} {calls : List BucketExchange}
    (walk : PlaceWalk lister calls) : Paging lister.token calls := by
  induction walk with
  | finish => exact .nil
  | refused lister e => exact .refused e
  | broken lister own fails => exact .last own.silent.1 own.silent.2
  | @page lister page requests rest own succeeded final walk ih =>
    by_cases last : page.nextToken = none
    · rw [final last, List.append_nil]
      exact .last own.silent.1 own.silent.2
    · exact .step own.silent.1 own.silent.2 last ih

/-- A walk sends the keys of its pages in order, from the first one on. -/
theorem PageWalk.ordered {bucket : String} {calls : List BucketExchange}
    (walk : PageWalk bucket calls) : sentKeys calls <+: listedKeys calls := by
  induction walk with
  | finish => exact List.prefix_rfl
  | refused => exact List.prefix_rfl
  | @broken token page requests own fails =>
    rw [sentKeys_list, listedKeys_list_ok, own.keyless, List.append_nil]
    exact own.ordered
  | @page token page requests rest own succeeded walk ih =>
    rw [List.cons_append, sentKeys_list, listedKeys_list_ok, sentKeys_append, listedKeys_append,
      own.keyless, List.nil_append, (own.complete succeeded).1]
    exact (List.prefix_append_right_inj _).2 ih

/-- A page without keys has no delete requests. -/
theorem PageRequests.eq_nil {bucket : String} {page : ObjectPage} {requests : List BucketExchange}
    (own : PageRequests bucket page requests) (empty : page.keys = []) : requests = [] := by
  have none : sentKeys requests = [] := by
    have := own.ordered
    rwa [empty, List.prefix_nil] at this
  refine List.eq_nil_iff_forall_not_mem.2 fun x hx => ?_
  obtain ⟨keys, h, some, -⟩ := own.limited x hx
  have sent : x.sent = [] := List.flatMap_eq_nil_iff.1 none x hx
  obtain ⟨_, answer⟩ := x
  cases h
  rw [show keys = [] from sent] at some
  cases some

/-- Where the first is a page without keys, the second is no delete request. -/
def SkipsEmpty (x y : BucketExchange) : Prop :=
  ∀ page, x.page? = some page → page.keys = [] → y.sent = []

/-- A page in front of its delete requests. -/
theorem PageRequests.skips {bucket : String} {page : ObjectPage} {requests : List BucketExchange}
    (own : PageRequests bucket page requests) (token : Option String) :
    List.IsChain SkipsEmpty (⟨.listObjectsPage bucket token, .ok page⟩ :: requests) := by
  refine List.isChain_cons.2 ⟨?_, (List.pairwise_of_forall_mem_list ?_).isChain⟩
  · intro y hy _ given empty
    cases given
    rw [own.eq_nil empty] at hy
    cases hy
  · intro x hx y _ page given
    rw [List.filterMap_eq_nil_iff.1 own.silent.2 x hx] at given
    cases given

/-- Behind a page without keys a walk makes no delete request. -/
theorem PageWalk.skips {bucket : String} {calls : List BucketExchange}
    (walk : PageWalk bucket calls) : calls.IsChain SkipsEmpty := by
  induction walk with
  | finish => exact .nil
  | refused => exact .singleton _
  | broken token own fails => exact own.skips token
  | @page token page requests rest own succeeded walk ih =>
    refine List.isChain_append.2 ⟨own.skips token, ih, ?_⟩
    intro x _ y hy _ _ _
    -- the next page is asked for
    cases walk with
    | finish => cases hy
    | refused | broken | page =>
      cases hy
      rfl

theorem emptyBucket_walk {pages : Nat} {bucket : String}
    {events : List (Event BucketCall BucketCall.Answer)} {ending : Ending (Except Error Nat)}
    (run : Run (emptyBucket pages bucket).run events ending) :
    PlaceWalk (.start bucket) (Event.calls events) := by
  rcases Action.run_bind_iff.1 run with ⟨_, walk, -⟩ | ⟨_, walk, -⟩ |
    ⟨tally, before, after, walk, last, rfl⟩
  · exact (emptyFrom_requests walk).1
  · exact (emptyFrom_requests walk).1
  · cases last
    rw [List.append_nil]
    exact (emptyFrom_requests walk).1

/-! ## The law -/

/-- What the requests of a run that empties a bucket are. -/
structure RequestReport (bucket : String) (calls : List BucketExchange) : Prop where
  /-- Every delete request is about the bucket, is not empty and has at most 1000 keys. -/
  limited : ∀ x ∈ calls, ∀ owner keys, x.1 = .deleteObjects owner keys →
    owner = bucket ∧ 1 ≤ keys.length ∧ keys.length ≤ 1000
  /-- The delete requests of a page come behind it and before the next listing request, and
  cover the page unless one of them fails. -/
  paged : PageWalk bucket calls
  /-- Behind a request that fails there are no more. -/
  stops : StopsAt Fails calls

/-- A store with a page of 1001 keys that refuses to delete a single key. -/
def crowdedStore : Handler BucketCall BucketCall.Answer Unit
  | .listObjectsPage _ _, s => (.ok ⟨List.replicate 1001 "k", none⟩, s)
  | .deleteObjects _ [_], s => (.error (.io (.text "reset")), s)
  | .deleteObjects _ _, s => (.ok [], s)
  | _, s => (.error (.io (.text "not a walk")), s)

def crowdedRun : Trace BucketCall BucketCall.Answer Unit (Except Error Nat) :=
  (emptyBucket 1 "photos").run.run crowdedStore ()

theorem batches_crowded :
    batches deleteLimit (List.replicate 1001 "k") = [List.replicate 1000 "k", ["k"]] := by
  have some : List.replicate 1001 "k" ≠ [] := List.cons_ne_nil _ _
  rw [batches_of_ne_nil (by decide) some, List.take_replicate, List.drop_replicate]
  show List.replicate 1000 "k" :: batches deleteLimit ["k"] = _
  rw [batches_of_ne_nil (by decide) (List.cons_ne_nil _ _)]
  exact congrArg (_ :: _ :: ·) (batches_nil _)

theorem crowdedRun_eq :
    crowdedRun = ⟨[.call (.listObjectsPage "photos" none) (.ok ⟨List.replicate 1001 "k", none⟩),
      .note ⟨.debug, "deleting 1000 objects from photos"⟩,
      .call (.deleteObjects "photos" (List.replicate 1000 "k")) (.ok []),
      .note ⟨.debug, "deleting 1 objects from photos"⟩,
      .call (.deleteObjects "photos" ["k"]) (.error (.io (.text "reset")))],
      .value (.error (.io (.text "reset"))), ()⟩ := by
  have listed : crowdedStore (.listObjectsPage "photos" none) () =
      (.ok ⟨List.replicate 1001 "k", none⟩, ()) := rfl
  have accepted : crowdedStore (.deleteObjects "photos" (List.replicate 1000 "k")) () =
      (.ok [], ()) := rfl
  have deleted : (deleteBatches "photos" ⟨0, []⟩ [List.replicate 1000 "k", ["k"]]).run.run
      crowdedStore () =
      ⟨[.note ⟨.debug, "deleting 1000 objects from photos"⟩,
        .call (.deleteObjects "photos" (List.replicate 1000 "k")) (.ok []),
        .note ⟨.debug, "deleting 1 objects from photos"⟩,
        .call (.deleteObjects "photos" ["k"]) (.error (.io (.text "reset")))],
        .value (.error (.io (.text "reset"))), ()⟩ := by
    rw [deleteBatches, deleteBatch_bind]
    simp only [Program.run, accepted, List.length_replicate, List.length_nil, Nat.not_lt_zero,
      if_false]
    rfl
  refine Action.run_bind_error ?_
  rw [emptyFrom, ObjectLister.step_bind rfl]
  simp only [Program.run, ObjectLister.start, listed, batches_crowded,
    Action.run_bind_error deleted]

end CloudOps
