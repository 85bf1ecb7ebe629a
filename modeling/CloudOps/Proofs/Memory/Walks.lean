import CloudOps.Proofs.Memory.Calls
import CloudOps.Proofs.Memory.Page

/-!
# Walks through a bucket of a store in memory

The place of a walk is a key, and the walk that empties a bucket deletes that very key before it
goes on.

* `deleteBatches_yields`: delete requests, in whatever batches.
* `listObjectsFrom_yields`, `emptyFrom_yields`: what a walk does from any place on.
* `listObjects_yields`, `emptyBucket_yields`: what it does to a whole bucket.
* `walks_exactly`: all of it together. The size of the pages shows in the number of requests only.
-/

namespace CloudOps

open Program

namespace BucketMemory

/-- Storing what is there changes nothing. -/
theorem insert_self {buckets : Std.ExtTreeMap String StoredBucket} {name : String}
    {bucket : StoredBucket} (found : buckets[name]? = some bucket) :
    buckets.insert name bucket = buckets := by
  refine Std.ExtTreeMap.ext_getElem? fun other => ?_
  rw [Std.ExtTreeMap.getElem?_insert]
  split
  · next same => rw [← Std.LawfulEqCmp.compare_eq_iff_eq.1 same, found]
  · rfl

/-- What is stored last counts. -/
theorem insert_insert (buckets : Std.ExtTreeMap String StoredBucket) (name : String)
    (bucket bucket' : StoredBucket) :
    (buckets.insert name bucket).insert name bucket' = buckets.insert name bucket' := by
  refine Std.ExtTreeMap.ext_getElem? fun other => ?_
  simp only [Std.ExtTreeMap.getElem?_insert]
  split <;> rfl

/-! ## Deleting several keys -/

/-- The tally behind delete requests for some keys, those that cannot be deleted among them. -/
def tallied (denied : List String) (tally : Tally) (keys : List String) : Tally :=
  ⟨tally.deleted + (keys.filter (· ∉ denied)).length,
    tally.failed ++ (keys.filter (· ∈ denied)).map deniedFailure⟩

@[simp] theorem tallied_nil (denied : List String) (tally : Tally) :
    tallied denied tally [] = tally := by
  simp [tallied]

theorem tallied_append (denied : List String) (tally : Tally) (keys keys' : List String) :
    tallied denied tally (keys ++ keys') = tallied denied (tallied denied tally keys) keys' := by
  simp [tallied, Nat.add_assoc]

theorem add_eq_tallied (denied : List String) (tally : Tally) (keys : List String) :
    tally.add keys.length ((keys.filter (· ∈ denied)).map deniedFailure) =
      tallied denied tally keys := by
  have := keys.length_eq_length_filter_add (· ∈ denied)
  simp only [Tally.add, tallied, List.length_map, Tally.mk.injEq, and_true, decide_not]
  omega

/-- What delete requests for some keys leave of a bucket. -/
def purged (denied keys : List String) (bucket : StoredBucket) : StoredBucket :=
  removeKeys (keys.filter (· ∉ denied)) bucket

@[simp] theorem purged_nil (denied : List String) (bucket : StoredBucket) :
    purged denied [] bucket = bucket := rfl

theorem purged_append (denied keys keys' : List String) (bucket : StoredBucket) :
    purged denied (keys ++ keys') bucket = purged denied keys' (purged denied keys bucket) := by
  rw [purged, List.filter_append, removeKeys_append]
  rfl

variable {store : BucketMemory} {name : String} {bucket : StoredBucket}

/-- **Delete requests.** How the keys are cut into batches does not matter. -/
theorem deleteBatches_yields (serves : store.Serves) (found : store.buckets[name]? = some bucket)
    (tally : Tally) (batches : List (List String)) :
    Yields (deleteBatches name tally batches).run store
      (.ok (tallied store.denied tally batches.flatten))
      (store.buckets.insert name (purged store.denied batches.flatten bucket)) 0 := by
  induction batches generalizing store bucket tally with
  | nil =>
    rw [List.flatten_nil, tallied_nil, purged_nil, insert_self found]
    exact .done _ store
  | cons keys more ih =>
    rw [List.flatten_cons, tallied_append, purged_append]
    refine .delete serves found fun later same kept => ?_
    have denied : later.denied = store.denied := denied_of_arrangement same
    have found' : later.buckets[name]? = some (purged store.denied keys bucket) := by
      rw [kept, Std.ExtTreeMap.getElem?_insert_self]
      rfl
    have rest := ih (serves.of_arrangement same) found' (tallied store.denied tally keys)
    rw [kept, insert_insert, denied] at rest
    rw [add_eq_tallied]
    exact rest

/-- The keys of a page do not matter behind its token. -/
theorem behind_purged {denied keys : List String} {t : String} (passed : ∀ key ∈ keys, key ≤ t)
    (bucket : StoredBucket) :
    behind (purged denied keys bucket).keys (some t) = behind bucket.keys (some t) := by
  rw [purged, keys_removeKeys, behind, List.filter_filter]
  refine List.filter_congr fun key _ => ?_
  have untouched : t < key → key ∉ keys.filter (· ∉ denied) := fun after h =>
    (passed key (List.mem_of_mem_filter h)).not_gt after
  rw [Bool.eq_iff_iff, Bool.and_eq_true, Option.all_some, decide_eq_true_eq, decide_eq_true_eq]
  exact and_iff_left_of_imp untouched

/-! ## From a place on -/

/-- **Listing.** From a place on, a walk gives the keys behind it. -/
theorem listObjectsFrom_yields {pages : Nat} {lister : ObjectLister} (fresh : lister.done = false)
    (serves : store.Serves) (found : store.buckets[lister.bucket]? = some bucket)
    (enough : pageCount store.pageSize (behind bucket.keys lister.token).length ≤ pages)
    (listed : List String) :
    Yields (listObjectsFrom pages listed lister).run store
      (.ok (listed ++ behind bucket.keys lister.token)) store.buckets
      (pageCount store.pageSize (behind bucket.keys lister.token).length) := by
  induction pages generalizing lister store listed with
  | zero => exact absurd (pageCount_pos _ _) (Nat.not_lt.2 enough)
  | succ pages ih =>
    rcases page_cases serves.roomy bucket.keys_ascending lister.token with
      ⟨served, one⟩ | ⟨keys, t, served, continues⟩
    · rw [one]
      refine .list fresh serves found served fun later _ kept => ?_
      show Yields (listObjectsFrom pages _ _).run _ _ _ _
      rw [listObjectsFrom_of_done (ObjectLister.advance_done_iff.2 rfl), ← kept]
      exact .done _ later
    · rw [continues.count] at enough ⊢
      rw [← continues.split, ← List.append_assoc]
      refine .list fresh serves found served fun later same kept => ?_
      have size : later.pageSize = store.pageSize := pageSize_of_arrangement same
      rw [← size] at enough ⊢
      rw [← kept] at found ⊢
      have fresh' : (lister.advance ⟨keys, some t⟩).done = false := rfl
      exact ih fresh' (serves.of_arrangement same) found (Nat.le_of_succ_le_succ enough) _

/-- One page of the walk that deletes: the request for it, the delete requests, and the rest. -/
theorem emptyFrom_page {pages : Nat} {tally : Tally} {lister : ObjectLister} {p : ObjectPage}
    {result : Except Error Tally} {buckets : Std.ExtTreeMap String StoredBucket} {n : Nat}
    (fresh : lister.done = false) (serves : store.Serves)
    (found : store.buckets[lister.bucket]? = some bucket)
    (served : page store.pageSize bucket.keys lister.token = p)
    (rest : ∀ last : BucketMemory, last.arrangement = store.arrangement →
      last.buckets = store.buckets.insert lister.bucket (purged store.denied p.keys bucket) →
      Yields (emptyFrom pages (tallied store.denied tally p.keys) (lister.advance p)).run
        last result buckets n) :
    Yields (emptyFrom (pages + 1) tally lister).run store result buckets (n + 1) := by
  refine .list fresh serves found served fun later same kept => ?_
  have denied : later.denied = store.denied := denied_of_arrangement same
  have deleted := deleteBatches_yields (serves.of_arrangement same) (kept ▸ found) tally
    (batches deleteLimit p.keys)
  rw [flatten_batches (by decide), denied, kept] at deleted
  exact .bind deleted fun last same' left => rest last (same'.trans same) left

/-- **Emptying.** From a place on, a walk deletes the keys behind it that can be deleted. -/
theorem emptyFrom_yields {pages : Nat} {lister : ObjectLister} (fresh : lister.done = false)
    (serves : store.Serves) (found : store.buckets[lister.bucket]? = some bucket)
    (enough : pageCount store.pageSize (behind bucket.keys lister.token).length ≤ pages)
    (tally : Tally) :
    Yields (emptyFrom pages tally lister).run store
      (.ok (tallied store.denied tally (behind bucket.keys lister.token)))
      (store.buckets.insert lister.bucket
        (purged store.denied (behind bucket.keys lister.token) bucket))
      (pageCount store.pageSize (behind bucket.keys lister.token).length) := by
  induction pages generalizing lister store bucket tally with
  | zero => exact absurd (pageCount_pos _ _) (Nat.not_lt.2 enough)
  | succ pages ih =>
    rcases page_cases serves.roomy bucket.keys_ascending lister.token with
      ⟨served, one⟩ | ⟨keys, t, served, continues⟩
    · rw [one]
      refine emptyFrom_page fresh serves found served fun last _ left => ?_
      rw [emptyFrom_of_done (ObjectLister.advance_done_iff.2 rfl), ← left]
      exact .done _ last
    · rw [continues.count] at enough ⊢
      rw [← continues.split, tallied_append, purged_append]
      refine emptyFrom_page fresh serves found served fun last same left => ?_
      have size : last.pageSize = store.pageSize := pageSize_of_arrangement same
      have denied : last.denied = store.denied := denied_of_arrangement same
      have found' : last.buckets[lister.bucket]? = some (purged store.denied keys bucket) := by
        rw [left, Std.ExtTreeMap.getElem?_insert_self]
      -- The walk goes on behind a key that may be gone; the keys behind it are all there.
      have same_keys : behind (purged store.denied keys bucket).keys (some t) =
          behind bucket.keys (some t) :=
        behind_purged continues.greatest bucket
      have fresh' : (lister.advance ⟨keys, some t⟩).done = false := rfl
      have token : (lister.advance ⟨keys, some t⟩).token = some t := rfl
      have enough' : pageCount last.pageSize
          (behind (purged store.denied keys bucket).keys (some t)).length ≤ pages := by
        rw [size, same_keys]
        exact Nat.le_of_succ_le_succ enough
      have rest := ih fresh' (serves.of_arrangement same) found' enough'
        (tallied store.denied tally keys)
      rw [ObjectLister.advance_bucket, token, same_keys, left, insert_insert, size, denied] at rest
      exact rest

/-! ## A whole bucket -/

/-- A bucket with those of its objects that cannot be deleted. -/
def lockedPart (denied : List String) (bucket : StoredBucket) : StoredBucket :=
  { bucket with objects := bucket.objects.filter fun key _ => decide (key ∈ denied) }

theorem purged_keys (denied : List String) (bucket : StoredBucket) :
    purged denied bucket.keys bucket = lockedPart denied bucket := by
  rw [purged, removeKeys_eq, lockedPart]
  congr 1
  refine Std.ExtTreeMap.ext_getElem? fun key => ?_
  rw [Std.ExtTreeMap.getElem?_filter', Std.ExtTreeMap.getElem?_filter']
  cases held : bucket.objects[key]? with
  | none => rfl
  | some body =>
    have : key ∈ bucket.keys := StoredBucket.mem_keys.2
      (Std.ExtTreeMap.mem_iff_isSome_getElem?.2 (by rw [held]; rfl))
    simp [this]

/-- The keys that are left are those that cannot be deleted, in their order. -/
theorem keys_lockedPart_eq_filter (denied : List String) (bucket : StoredBucket) :
    (lockedPart denied bucket).keys = bucket.keys.filter (· ∈ denied) :=
  Std.ExtTreeMap.keys_filter_key

/-- The result of emptying a bucket: the number of its objects, or those that cannot be deleted. -/
def emptyingResult (denied : List String) (name : String) (bucket : StoredBucket) :
    Except Error Nat :=
  if ∀ key ∈ bucket.keys, key ∉ denied then .ok bucket.objects.size
  else .error (.partialDelete name ((bucket.keys.filter (· ∈ denied)).map deniedFailure))

theorem outcome_tallied (denied : List String) (name : String) (bucket : StoredBucket) :
    (tallied denied ⟨0, []⟩ bucket.keys).outcome name = emptyingResult denied name bucket := by
  rw [emptyingResult, Tally.outcome, tallied]
  by_cases free : ∀ key ∈ bucket.keys, key ∉ denied
  · have whole : bucket.keys.filter (· ∉ denied) = bucket.keys :=
      List.filter_eq_self.2 (by simpa using free)
    have none : bucket.keys.filter (· ∈ denied) = [] :=
      List.filter_eq_nil_iff.2 (by simpa using free)
    rw [if_pos free, none, whole, StoredBucket.length_keys]
    simp
  · have : bucket.keys.filter (· ∈ denied) ≠ [] := fun none =>
      free (by simpa using List.filter_eq_nil_iff.1 none)
    rw [if_neg free, if_neg (by simpa using this)]
    rfl

section Whole

variable {pages : Nat} (serves : store.Serves) (found : store.buckets[name]? = some bucket)
  (enough : pageCount store.pageSize bucket.objects.size ≤ pages)

include serves found enough

/-- A listing gives the keys of the bucket. -/
theorem listObjects_yields :
    Yields (listObjects pages name).run store (.ok bucket.keys) store.buckets
      (pageCount store.pageSize bucket.objects.size) := by
  have fresh : (ObjectLister.start name).done = false := rfl
  have enough' : pageCount store.pageSize (behind bucket.keys none).length ≤ pages := by
    rwa [behind_none, StoredBucket.length_keys]
  have walk := listObjectsFrom_yields fresh serves found enough' []
  rwa [ObjectLister.start, behind_none, StoredBucket.length_keys] at walk

/-- The emptying of a bucket leaves the objects that cannot be deleted. -/
theorem emptyBucket_yields :
    Yields (emptyBucket pages name).run store (emptyingResult store.denied name bucket)
      (store.buckets.insert name (lockedPart store.denied bucket))
      (pageCount store.pageSize bucket.objects.size) := by
  have fresh : (ObjectLister.start name).done = false := rfl
  have enough' : pageCount store.pageSize (behind bucket.keys none).length ≤ pages := by
    rwa [behind_none, StoredBucket.length_keys]
  have walk := emptyFrom_yields fresh serves found enough' ⟨0, []⟩
  rw [ObjectLister.start, behind_none, purged_keys, StoredBucket.length_keys] at walk
  rw [← Nat.zero_add (pageCount _ _)]
  refine .bind walk fun later _ kept => ?_
  rw [← outcome_tallied, ← kept]
  exact .done _ later

end Whole

/-- The pages that `pagesOf` allows are enough. -/
theorem pageCount_le_pagesOf (serves : store.Serves) (found : store.buckets[name]? = some bucket) :
    pageCount store.pageSize bucket.objects.size ≤ store.pagesOf name := by
  rw [pagesOf, objectKeys, found, ← StoredBucket.length_keys]
  exact pageCount_le serves.roomy _

/-- The action ends alike under two stores, and leaves the same buckets. -/
def SameOutcome {α : Type} (action : BucketAction α) (store other : BucketMemory) : Prop :=
  (action.run.run answer other).ending = (action.run.run answer store).ending ∧
    (action.run.run answer other).state.buckets = (action.run.run answer store).state.buckets

theorem Yields.sameOutcome {α : Type} {action : BucketAction α} {store other : BucketMemory}
    {result : Except Error α} {buckets : Std.ExtTreeMap String StoredBucket} {m n : Nat}
    (h : Yields action.run store result buckets m) (h' : Yields action.run other result buckets n) :
    SameOutcome action store other :=
  ⟨h'.ending.trans h.ending.symm, h'.buckets.trans h.buckets.symm⟩

/-- What the walks through a bucket come to that may ask for so many pages. -/
structure WalksExactly (pages : Nat) (store : BucketMemory) (name : String)
    (bucket : StoredBucket) : Prop where
  /-- A listing gives the keys and changes no bucket. -/
  listed : Yields (listObjects pages name).run store (.ok bucket.keys) store.buckets
    (pageCount store.pageSize bucket.objects.size)
  /-- These are the keys of all objects, -/
  all : ∀ key, key ∈ bucket.keys ↔ key ∈ bucket.objects
  /-- each once, in the order of their bytes. -/
  ascending : bucket.keys.Pairwise (Text.bytes · < Text.bytes ·)
  /-- Emptying the bucket leaves the objects that cannot be deleted, and reports their keys in the
  order of the listing. -/
  emptied : Yields (emptyBucket pages name).run store (emptyingResult store.denied name bucket)
    (store.buckets.insert name (lockedPart store.denied bucket))
    (pageCount store.pageSize bucket.objects.size)
  /-- The size of the pages shows in the number of requests only. -/
  steady : ∀ other : BucketMemory, other.Serves → other.buckets = store.buckets →
    other.denied = store.denied → pageCount other.pageSize bucket.objects.size ≤ pages →
    SameOutcome (listObjects pages name) store other ∧
      SameOutcome (emptyBucket pages name) store other

/-- A bucket with four objects. -/
def album : StoredBucket :=
  ⟨none, ((((∅ : Std.ExtTreeMap String ByteArray).insert "d" ⟨#[4]⟩).insert "a" ⟨#[1]⟩).insert
    "c" ⟨#[3]⟩).insert "b" ⟨#[2]⟩, none⟩

/-- A store with two keys on a page, in which one key cannot be deleted. -/
def albumStore : BucketMemory where
  pageSize := some 2
  record := .empty
  buckets := (∅ : Std.ExtTreeMap String StoredBucket).insert "photos" album
  denied := ["b"]
  failListingFrom := none
  pagesServed := 0

end BucketMemory

end CloudOps
