import CloudOps.Proofs.Memory.LifeCycle

/-!
# Walks that are interrupted

A store counts the pages that it was asked for, over all its buckets and walks, and serves none from
a limit on.

* `BucketMemory.withLimit`: the store with another limit. `run_withLimit`: a program that asks for
  no page beyond the limit does not notice it; `run_pagesServed` says what a program asks for.
* `BucketMemory.Limited`: a store with a limit, in which nothing else fails.
  `Limited.emptyFrom_yields`: what a walk that deletes does up to the limit, from any place on.
* `BucketMemory.cutShort`: what such a walk leaves of a bucket.
* `emptying_interrupted`: all of it together, for both operations and for a second attempt.
-/

namespace CloudOps

open Program

theorem listingCount_singleton (x : BucketExchange) :
    listingCount [x] = if x.1.method = .listObjectsPage then 1 else 0 := by
  simp [listingCount, List.countP_cons]

namespace BucketMemory

/-! ## A limit that is not reached -/

/-- The store with another limit on the pages that are served. -/
def withLimit (store : BucketMemory) (limit : Option Nat) : BucketMemory :=
  { store with failListingFrom := limit }

theorem withLimit_of_eq {store : BucketMemory} {limit : Option Nat}
    (same : store.failListingFrom = limit) : store.withLimit limit = store := by
  subst same
  rfl

theorem change_pagesServed (store : BucketMemory) (name : String)
    (f : StoredBucket → StoredBucket) :
    (store.change name f).pagesServed = store.pagesServed := by
  unfold change
  split <;> rfl

/-- A listing request counts, whether or not its page is served. -/
theorem perform_pagesServed (store : BucketMemory) (c : BucketCall) :
    (store.perform c).2.pagesServed =
      store.pagesServed + if c.method = .listObjectsPage then 1 else 0 := by
  cases c with
  | listObjectsPage =>
    show _ = store.pagesServed + 1
    simp only [perform]
    (repeat' split) <;> rfl
  | deleteObjects | putBucketPolicy =>
    show _ = store.pagesServed
    simp only [perform]
    split
    · rfl
    · exact change_pagesServed ..
  | putObject =>
    show _ = store.pagesServed
    simp only [perform, addObject]
    split
    · rfl
    · rfl
    · exact change_pagesServed ..
  | listBuckets | awaitPresence | awaitAbsence => rfl
  | createBucket | deleteBucket =>
    show _ = store.pagesServed
    simp only [perform]
    (repeat' split) <;> rfl

/-- Every listing request counts, where they are not arranged to fail. -/
theorem answer_pagesServed {store : BucketMemory}
    (lists : store.record.fault? .listObjectsPage = none) (c : BucketCall) :
    (answer c store).2.pagesServed =
      store.pagesServed + listingCount [⟨c, (answer c store).1⟩] := by
  rw [listingCount_singleton]
  cases found : store.faultOf? c with
  | none =>
    rw [answer_of_faultless found]
    exact perform_pagesServed store c
  | some fault =>
    have : c.method ≠ .listObjectsPage := fun same => by
      cases (faultOf?_of_faultless (same ▸ lists)).symm.trans found
    rw [answer_of_fault found, if_neg this]
    rfl

@[simp] theorem withLimit_buckets (store : BucketMemory) (limit : Option Nat) :
    (store.withLimit limit).buckets = store.buckets := rfl

/-- A call that is no listing request does not ask for the limit. -/
theorem unasked_withLimit (limit : Option Nat) : Unasked (·.withLimit limit) :=
  ⟨fun _ => rfl, fun _ => rfl, fun _ _ => rfl⟩

/-- Below the limit, a call is carried out as if there were none. -/
theorem perform_withLimit (store : BucketMemory) {c : BucketCall} {limit : Nat}
    (unlimited : store.failListingFrom = none)
    (below : c.method = .listObjectsPage → store.pagesServed < limit) :
    (store.withLimit (some limit)).perform c =
      ((store.perform c).1, (store.perform c).2.withLimit (some limit)) := by
  by_cases listing : c.method = .listObjectsPage
  · cases c with
    | listObjectsPage name token =>
      have served : ¬ limit ≤ store.pagesServed := Nat.not_le.2 (below rfl)
      simp only [perform, withLimit, unlimited, Option.any_some, Option.any_none, served,
        decide_false, Bool.false_eq_true, if_false]
      cases store.buckets[name]? <;> rfl
    | _ => cases listing
  · exact perform_unasked (unasked_withLimit _) listing store

/-- Below the limit, a call is answered as if there were none. -/
theorem answer_withLimit {store : BucketMemory} {c : BucketCall} {limit : Nat}
    (unlimited : store.failListingFrom = none)
    (below : c.method = .listObjectsPage → store.pagesServed < limit) :
    answer c (store.withLimit (some limit)) =
      ((answer c store).1, (answer c store).2.withLimit (some limit)) := by
  have faults : (store.withLimit (some limit)).faultOf? c = store.faultOf? c := rfl
  cases found : store.faultOf? c with
  | none =>
    rw [answer_of_faultless found, answer_of_faultless (faults.trans found),
      perform_withLimit store unlimited below]
    rfl
  | some fault =>
    rw [answer_of_fault found, answer_of_fault (faults.trans found)]
    rfl

/-- A program whose listing requests all stay below the limit runs as if there were none. -/
theorem run_withLimit {α : Type} {program : BucketProgram α} (store : BucketMemory) {limit : Nat}
    (lists : store.record.fault? .listObjectsPage = none)
    (unlimited : store.failListingFrom = none)
    (below : store.pagesServed + listingCount (Event.calls (program.run answer store).events) ≤
      limit) :
    program.run answer (store.withLimit (some limit)) =
      ⟨(program.run answer store).events, (program.run answer store).ending,
        (program.run answer store).state.withLimit (some limit)⟩ := by
  induction program generalizing store with
  | done | halt => rfl
  | note entry program ih =>
    simp only [Program.run, ih store lists unlimited below]
  | call c k ih =>
    have same := answer_arrangement c store
    have lists' := (fault?_of_arrangement same _).trans lists
    have unlimited' := (limit_of_arrangement same).trans unlimited
    have count := answer_pagesServed lists c
    have split : listingCount (Event.calls ((Program.call c k).run answer store).events) =
        listingCount [⟨c, (answer c store).1⟩] + listingCount (Event.calls
          ((k (answer c store).1).run answer (answer c store).2).events) :=
      listingCount_append [_] _
    have first : c.method = .listObjectsPage → store.pagesServed < limit := by
      intro listing
      rw [split, listingCount_singleton, if_pos listing] at below
      omega
    have answered := answer_withLimit unlimited first
    have rest := ih (answer c store).1 (answer c store).2 lists' unlimited' (by omega)
    simp only [Program.run, answered, rest]

/-- Every listing request of a program counts, where they are not arranged to fail. -/
theorem run_pagesServed {α : Type} {program : BucketProgram α} {store : BucketMemory}
    (lists : store.record.fault? .listObjectsPage = none) :
    (program.run answer store).state.pagesServed =
      store.pagesServed + listingCount (Event.calls (program.run answer store).events) := by
  induction program generalizing store with
  | done | halt => rfl
  | note entry program ih => exact ih lists
  | call c k ih =>
    have lists' := (fault?_of_arrangement (answer_arrangement c store) _).trans lists
    have rest := ih (answer c store).1 lists'
    rw [answer_pagesServed lists c, Nat.add_assoc, ← listingCount_append] at rest
    exact rest

namespace Yields

variable {α β : Type} {store : BucketMemory} {buckets buckets' : Std.ExtTreeMap String StoredBucket}
  {limit m n : Nat}

/-- What an action gives without a limit, it gives below every limit. -/
theorem below {action : BucketProgram (Except Error α)} {result : Except Error α}
    (free : Yields action store result buckets m)
    (lists : store.record.fault? .listObjectsPage = none)
    (unlimited : store.failListingFrom = none) (below : store.pagesServed + m ≤ limit) :
    Yields action (store.withLimit (some limit)) result buckets m := by
  rw [← free.requests] at below
  have same := run_withLimit store lists unlimited below
  exact ⟨by rw [same, free.ending], by rw [same, withLimit_buckets, free.buckets],
    by rw [same, free.requests]⟩

/-- Two actions in a row; the second one finds the pages counted that the first one asked for. -/
theorem bind_counted {action : BucketAction α} {f : α → BucketAction β} {a : α}
    {result : Except Error β} (first : Yields action.run store (.ok a) buckets m)
    (lists : store.record.fault? .listObjectsPage = none)
    (rest : ∀ later : BucketMemory, later.arrangement = store.arrangement →
      later.buckets = buckets → later.pagesServed = store.pagesServed + m →
      Yields (f a).run later result buckets' n) :
    Yields (action >>= f).run store result buckets' (n + m) :=
  first.bind_after (rest _ (run_arrangement action.run store) first.buckets
    (by rw [run_pagesServed lists, first.requests]))

end Yields

/-! ## A page, and the one that is not served -/

/-- Pages from this one on are not served, and nothing else is arranged to fail. -/
structure Limited (store : BucketMemory) (size limit : Nat) : Prop where
  faultless : ∀ method, store.record.fault? method = none
  limited : store.failListingFrom = some limit
  sized : store.pageSize = some size
  roomy : 0 < size

variable {store : BucketMemory} {name : String} {bucket : StoredBucket} {size limit : Nat}

namespace Limited

theorem of_arrangement {later : BucketMemory} (limited : store.Limited size limit)
    (same : later.arrangement = store.arrangement) : later.Limited size limit where
  faultless method := (fault?_of_arrangement same method).trans (limited.faultless method)
  limited := (limit_of_arrangement same).trans limited.limited
  sized := (pageSize_of_arrangement same).trans limited.sized
  roomy := limited.roomy

/-- Without the limit, nothing fails. -/
theorem quiet (limited : store.Limited size limit) : (store.withLimit none).Quiet where
  faultless := limited.faultless
  unlimited := rfl
  roomy full := limited.roomy.ne' (Option.some.inj (limited.sized.symm.trans full))

theorem quiet_pageSize (limited : store.Limited size limit) :
    (store.withLimit none).pageSize = some size :=
  limited.sized

/-- What an action gives without the limit, it gives if it asks for no page beyond it. -/
theorem yields {α : Type} {action : BucketProgram (Except Error α)} {result : Except Error α}
    {buckets : Std.ExtTreeMap String StoredBucket} {m : Nat} (limited : store.Limited size limit)
    (free : Yields action (store.withLimit none) result buckets m)
    (below : store.pagesServed + m ≤ limit) : Yields action store result buckets m := by
  have same : (store.withLimit none).withLimit (some limit) = store :=
    withLimit_of_eq limited.limited
  rw [← same]
  exact free.below (limited.faultless _) rfl below

/-- The page at the limit is not served. -/
theorem step_refused {β : Type} {lister : ObjectLister}
    {f : Option (List String) × ObjectLister → BucketAction β}
    (limited : store.Limited size limit) (fresh : lister.done = false)
    (reached : limit ≤ store.pagesServed) :
    Yields (lister.step >>= f).run store (.error connectionReset) store.buckets 1 := by
  have quiet : store.faultOf? (.listObjectsPage lister.bucket lister.token) = none :=
    limited.faultless _
  have answered : (answer (.listObjectsPage lister.bucket lister.token) store).1 =
      .error connectionReset ∧
      (answer (.listObjectsPage lister.bucket lister.token) store).2.buckets = store.buckets := by
    rw [answer_of_faultless quiet]
    simp [perform, limited.limited, reached]
  exact .list_error fresh answered.1 answered.2

/-- A page in front of the limit. -/
theorem step_yields {lister : ObjectLister} {p : ObjectPage} (limited : store.Limited size limit)
    (fresh : lister.done = false) (before : store.pagesServed < limit)
    (found : store.buckets[lister.bucket]? = some bucket)
    (served : page store.pageSize bucket.keys lister.token = p) :
    Yields lister.step.run store (.ok (some p.keys, lister.advance p)) store.buckets 1 := by
  refine limited.yields ?_ before
  rw [← bind_pure lister.step]
  refine .list fresh limited.quiet.serves found served fun later _ kept => ?_
  rw [← withLimit_buckets store none, ← kept]
  exact .done _ later

/-- One page in front of the limit: the request for it, the delete requests, and the rest. -/
theorem emptyFrom_page {pages : Nat} {tally : Tally} {lister : ObjectLister} {p : ObjectPage}
    {result : Except Error Tally} {buckets : Std.ExtTreeMap String StoredBucket} {n : Nat}
    (limited : store.Limited size limit) (fresh : lister.done = false)
    (before : store.pagesServed < limit) (found : store.buckets[lister.bucket]? = some bucket)
    (served : page store.pageSize bucket.keys lister.token = p)
    (rest : ∀ last : BucketMemory, last.arrangement = store.arrangement →
      last.buckets = store.buckets.insert lister.bucket (purged store.denied p.keys bucket) →
      last.pagesServed = store.pagesServed + 1 →
      Yields (emptyFrom pages (tallied store.denied tally p.keys) (lister.advance p)).run
        last result buckets n) :
    Yields (emptyFrom (pages + 1) tally lister).run store result buckets (n + 1) := by
  have step := limited.step_yields fresh before found served
  refine step.bind_counted (limited.faultless _) fun later same kept count => ?_
  have limited' := limited.of_arrangement same
  have denied : (later.withLimit none).denied = store.denied :=
    (denied_of_arrangement same : later.denied = store.denied)
  have deleted := deleteBatches_yields limited'.quiet.serves (kept ▸ found) tally
    (batches deleteLimit p.keys)
  rw [flatten_batches (by decide), denied, withLimit_buckets, kept] at deleted
  exact (limited'.yields deleted (by omega)).bind_counted (limited'.faultless _)
    fun last same' left count' => rest last (same'.trans same) left (by omega)

/-- **Emptying up to the limit.** From a place on, a walk deletes the keys of the pages in front of
the limit, as far as they can be deleted, and ends with the failure of the page at the limit. -/
theorem emptyFrom_yields {pages : Nat} {lister : ObjectLister} (limited : store.Limited size limit)
    (fresh : lister.done = false) (found : store.buckets[lister.bucket]? = some bucket)
    (early : limit - store.pagesServed <
      pageCount (some size) (behind bucket.keys lister.token).length)
    (enough : limit - store.pagesServed < pages) (tally : Tally) :
    Yields (emptyFrom pages tally lister).run store (.error connectionReset)
      (store.buckets.insert lister.bucket (purged store.denied
        ((behind bucket.keys lister.token).take ((limit - store.pagesServed) * size)) bucket))
      (limit - store.pagesServed + 1) := by
  induction pages generalizing lister store bucket tally with
  | zero => exact absurd enough (Nat.not_lt_zero _)
  | succ pages ih =>
    rcases Nat.lt_or_ge store.pagesServed limit with before | reached
    · have roomy : some size ≠ some 0 := fun zero => limited.roomy.ne' (Option.some.inj zero)
      rcases page_cases roomy bucket.keys_ascending lister.token with
        ⟨-, one⟩ | ⟨keys, t, served, continues⟩
      · -- The last page would be in front of the limit.
        omega
      have first : keys = (behind bucket.keys lister.token).take size :=
        (congrArg ObjectPage.keys served).symm
      have others : behind bucket.keys (some t) = (behind bucket.keys lister.token).drop size := by
        have split := continues.split
        rw [first] at split
        exact List.append_cancel_left (split.trans (List.take_append_drop _ _).symm)
      obtain ⟨left, more⟩ : ∃ left, limit - store.pagesServed = left + 1 :=
        ⟨limit - store.pagesServed - 1, by omega⟩
      rw [more, Nat.add_mul, Nat.one_mul, Nat.add_comm (left * size), List.take_add, ← others,
        ← first, purged_append]
      rw [← limited.sized] at served
      refine limited.emptyFrom_page fresh before found served fun last same kept count => ?_
      have denied : last.denied = store.denied := denied_of_arrangement same
      have found' : last.buckets[lister.bucket]? = some (purged store.denied keys bucket) := by
        rw [kept, Std.ExtTreeMap.getElem?_insert_self]
      have same_keys : behind (purged store.denied keys bucket).keys (some t) =
          behind bucket.keys (some t) :=
        behind_purged continues.greatest bucket
      have left_eq : limit - last.pagesServed = left := by omega
      have early' : limit - last.pagesServed < pageCount (some size)
          (behind (purged store.denied keys bucket).keys (some t)).length := by
        rw [same_keys]
        have := continues.count
        omega
      have fresh' : (lister.advance ⟨keys, some t⟩).done = false := rfl
      have token : (lister.advance ⟨keys, some t⟩).token = some t := rfl
      have rest := ih (limited.of_arrangement same) fresh' found' early' (by omega)
        (tallied store.denied tally keys)
      rw [left_eq, kept, denied, ObjectLister.advance_bucket, token, same_keys, insert_insert]
        at rest
      exact rest
    · have none : limit - store.pagesServed = 0 := Nat.sub_eq_zero_of_le reached
      rw [none, Nat.zero_mul, List.take_zero, purged_nil, insert_self found]
      exact limited.step_refused fresh reached

end Limited

/-! ## A whole bucket -/

/-- A bucket whose first objects were deleted, as far as they can be. -/
def emptiedUpTo (denied : List String) (count : Nat) (bucket : StoredBucket) : StoredBucket :=
  { bucket with
    objects := bucket.objects.filter fun key _ =>
      decide (key ∉ bucket.keys.take count ∨ key ∈ denied) }

/-- What a walk that meets the limit leaves of a bucket: on the pages in front of the limit, the
objects that cannot be deleted, and all objects behind them. -/
def cutShort (store : BucketMemory) (size limit : Nat) (bucket : StoredBucket) : StoredBucket :=
  emptiedUpTo store.denied ((limit - store.pagesServed) * size) bucket

theorem purged_take (denied : List String) (count : Nat) (bucket : StoredBucket) :
    purged denied (bucket.keys.take count) bucket = emptiedUpTo denied count bucket := by
  rw [purged, removeKeys_eq, emptiedUpTo]
  congr 2
  funext key _
  simp [Decidable.imp_iff_not_or]

/-- What cannot be deleted is still there. -/
theorem lockedPart_emptiedUpTo (denied : List String) (count : Nat) (bucket : StoredBucket) :
    lockedPart denied (emptiedUpTo denied count bucket) = lockedPart denied bucket := by
  rw [lockedPart, lockedPart, emptiedUpTo]
  congr 1
  refine Std.ExtTreeMap.ext_getElem? fun key => ?_
  simp only [Std.ExtTreeMap.getElem?_filter']
  cases bucket.objects[key]? with
  | none => rfl
  | some body =>
    by_cases locked : key ∈ denied
    · simp [Option.filter, locked]
    · by_cases first : key ∈ bucket.keys.take count <;> simp [Option.filter, locked, first]

theorem size_emptiedUpTo_le (denied : List String) (count : Nat) (bucket : StoredBucket) :
    (emptiedUpTo denied count bucket).objects.size ≤ bucket.objects.size :=
  Std.ExtTreeMap.size_filter_le_size

/-- Without the limit, the removal of a bucket asks for the pages of one walk, whether or not every
object can be deleted. -/
theorem emptyAndRemoveBucket_requests {pages : Nat} (quiet : store.Quiet)
    (found : store.buckets[name]? = some bucket)
    (enough : pageCount store.pageSize bucket.objects.size ≤ pages) :
    ∃ result buckets, Yields (emptyAndRemoveBucket pages name).run store result buckets
      (pageCount store.pageSize bucket.objects.size) := by
  by_cases free : ∀ key ∈ bucket.keys, key ∉ store.denied
  · exact ⟨_, _, emptyAndRemoveBucket_yields quiet found free enough⟩
  · have emptied := emptyBucket_yields quiet.serves found enough
    rw [emptyingResult, if_neg free] at emptied
    exact ⟨_, _, emptied.bind_error⟩

/-- The action runs as it would without a limit on the pages. -/
def Unhindered {α : Type} (store : BucketMemory) (action : BucketAction α) : Prop :=
  action.run.run answer store =
    ⟨(action.run.run answer (store.withLimit none)).events,
      (action.run.run answer (store.withLimit none)).ending,
      (action.run.run answer (store.withLimit none)).state.withLimit store.failListingFrom⟩

namespace Limited

theorem unhindered {α : Type} {action : BucketAction α} {result : Except Error α}
    {buckets : Std.ExtTreeMap String StoredBucket} {m : Nat} (limited : store.Limited size limit)
    (free : Yields action.run (store.withLimit none) result buckets m)
    (below : store.pagesServed + m ≤ limit) : store.Unhindered action := by
  rw [← free.requests] at below
  have same := run_withLimit (store.withLimit none) (limited.faultless _) rfl below
  rw [Unhindered, limited.limited]
  have back : (store.withLimit none).withLimit (some limit) = store :=
    withLimit_of_eq limited.limited
  rwa [back] at same

section Whole

variable {pages : Nat} (limited : store.Limited size limit)
  (found : store.buckets[name]? = some bucket)

include limited found

/-- A walk that meets the limit leaves the objects behind it. -/
theorem emptyBucket_yields
    (early : limit - store.pagesServed < pageCount (some size) bucket.objects.size)
    (enough : limit - store.pagesServed < pages) :
    Yields (emptyBucket pages name).run store (.error connectionReset)
      (store.buckets.insert name (store.cutShort size limit bucket))
      (limit - store.pagesServed + 1) := by
  have fresh : (ObjectLister.start name).done = false := rfl
  have early' : limit - store.pagesServed <
      pageCount (some size) (behind bucket.keys none).length := by
    rwa [behind_none, StoredBucket.length_keys]
  have walk := limited.emptyFrom_yields fresh found early' enough ⟨0, []⟩
  rw [ObjectLister.start, behind_none, purged_take] at walk
  exact walk.bind_error

/-- A walk that does not meet the limit. -/
theorem emptyBucket_yields_of_far (enough : pageCount (some size) bucket.objects.size ≤ pages)
    (far : store.pagesServed + pageCount (some size) bucket.objects.size ≤ limit) :
    Yields (emptyBucket pages name).run store (emptyingResult store.denied name bucket)
      (store.buckets.insert name (lockedPart store.denied bucket))
      (pageCount (some size) bucket.objects.size) := by
  rw [← limited.sized] at enough far ⊢
  exact limited.yields (BucketMemory.emptyBucket_yields limited.quiet.serves found enough) far

end Whole

end Limited

/-- What becomes of a walk through a bucket that meets the limit. -/
structure Interrupted (pages size limit : Nat) (store : BucketMemory) (name : String)
    (bucket : StoredBucket) : Prop where
  /-- Emptying the bucket ends with the failure of the page at the limit, whether or not some
  objects could not be deleted. Of the objects on the pages in front of the limit it leaves those;
  the others, and everything else, it does not touch. -/
  emptied : Yields (emptyBucket pages name).run store (.error connectionReset)
    (store.buckets.insert name (store.cutShort size limit bucket))
    (limit - store.pagesServed + 1)
  /-- Emptying and removing it does no more. -/
  removed : Yields (emptyAndRemoveBucket pages name).run store (.error connectionReset)
    (store.buckets.insert name (store.cutShort size limit bucket))
    (limit - store.pagesServed + 1)
  /-- Once the limit is out of reach, emptying the bucket again leaves what it would have left at
  once without a limit. -/
  resumed : ∀ limit', (store.after (emptyBucket pages name)).pagesServed +
      pageCount (some size) (store.cutShort size limit bucket).objects.size ≤ limit' →
    let resumed := (store.after (emptyBucket pages name)).failListingFromPage limit'
    resumed.Ends (emptyBucket pages name)
        (emptyingResult store.denied name (store.cutShort size limit bucket)) ∧
      (resumed.after (emptyBucket pages name)).buckets =
        ((store.withLimit none).after (emptyBucket pages name)).buckets

/-- What a limit on the pages means for emptying a bucket. -/
structure LimitReport (pages size limit : Nat) (store : BucketMemory) (name : String)
    (bucket : StoredBucket) : Prop where
  /-- The bucket has more pages than are left in front of the limit. -/
  early : limit - store.pagesServed < pageCount (some size) bucket.objects.size →
    Interrupted pages size limit store name bucket
  /-- It has not, and the limit does not show. -/
  late : pageCount (some size) bucket.objects.size ≤ limit - store.pagesServed →
    store.Unhindered (emptyBucket pages name) ∧ store.Unhindered (emptyAndRemoveBucket pages name)

/-- The album behind three pages that were asked for before, with one more page to come. -/
def hurriedStore : BucketMemory :=
  { albumStore with failListingFrom := some 4, pagesServed := 3 }

end BucketMemory

end CloudOps
