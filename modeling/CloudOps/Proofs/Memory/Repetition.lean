import CloudOps.Proofs.Memory.LifeCycle

/-!
# Emptying a bucket again

A second walk goes through fewer keys than the first one, on other pages and in other batches: only
those that cannot be deleted are left.

* `lockedPart_lockedPart`, `emptyingResult_lockedPart_of_free`,
  `emptyingResult_lockedPart_of_locked`: what a walk does to a bucket that was emptied before.
* `emptying_repeats`: the second walk changes nothing, and reports what the first one did.
-/

namespace CloudOps

namespace BucketMemory

/-! ## A bucket that was emptied before -/

/-- What a walk leaves, every walk leaves. -/
theorem lockedPart_lockedPart (denied : List String) (bucket : StoredBucket) :
    lockedPart denied (lockedPart denied bucket) = lockedPart denied bucket := by
  rw [lockedPart, lockedPart]
  congr 1
  refine Std.ExtTreeMap.ext_getElem? fun key => ?_
  simp only [Std.ExtTreeMap.getElem?_filter']
  cases bucket.objects[key]? with
  | none => rfl
  | some body => by_cases locked : key ∈ denied <;> simp [Option.filter, locked]

theorem size_lockedPart_le (denied : List String) (bucket : StoredBucket) :
    (lockedPart denied bucket).objects.size ≤ bucket.objects.size :=
  Std.ExtTreeMap.size_filter_le_size

/-- Where everything can be deleted, a second walk has nothing to do. -/
theorem emptyingResult_lockedPart_of_free {denied : List String} {bucket : StoredBucket}
    (free : ∀ key ∈ bucket.keys, key ∉ denied) (name : String) :
    emptyingResult denied name (lockedPart denied bucket) = .ok 0 := by
  have bare : (lockedPart denied bucket).keys = [] := keys_lockedPart free
  have none : (lockedPart denied bucket).objects.size = 0 := by
    rw [← StoredBucket.length_keys, bare, List.length_nil]
  rw [emptyingResult, bare, if_pos (List.forall_mem_nil _), none]

/-- Where something cannot be deleted, a second walk reports the same keys in the same order. -/
theorem emptyingResult_lockedPart_of_locked {denied : List String} {bucket : StoredBucket}
    (locked : ¬ ∀ key ∈ bucket.keys, key ∉ denied) (name : String) :
    emptyingResult denied name (lockedPart denied bucket) = emptyingResult denied name bucket := by
  have still : ¬ ∀ key ∈ (lockedPart denied bucket).keys, key ∉ denied := by
    intro free
    refine locked fun key held denies => free key ?_ denies
    rw [keys_lockedPart_eq_filter]
    exact List.mem_filter.2 ⟨held, decide_eq_true denies⟩
  rw [emptyingResult, emptyingResult, if_neg locked, if_neg still, keys_lockedPart_eq_filter,
    List.filter_filter]
  simp only [Bool.and_self]

/-! ## The law -/

/-- What emptying a bucket twice in a row comes to. -/
structure Repeats (pages : Nat) (store : BucketMemory) (name : String) : Prop where
  /-- The second walk leaves every bucket as it is. -/
  settled : ((store.after (emptyBucket pages name)).after (emptyBucket pages name)).buckets =
    (store.after (emptyBucket pages name)).buckets
  /-- It finds nothing if the first one succeeded. Otherwise the first one could not delete some
  objects, and the second one reports the same. -/
  reported :
    (∃ n, store.Ends (emptyBucket pages name) (.ok n) ∧
      (store.after (emptyBucket pages name)).Ends (emptyBucket pages name) (.ok 0)) ∨
    ∃ failed, store.Ends (emptyBucket pages name) (.error (.partialDelete name failed)) ∧
      (store.after (emptyBucket pages name)).Ends (emptyBucket pages name)
        (.error (.partialDelete name failed))

/-- **Emptying a bucket is idempotent.** -/
theorem emptying_repeats {pages : Nat} {store : BucketMemory} {name : String}
    {bucket : StoredBucket} (serves : store.Serves) (found : store.buckets[name]? = some bucket)
    (enough : pageCount store.pageSize bucket.objects.size ≤ pages) :
    Repeats pages store name := by
  have first := emptyBucket_yields serves found enough
  have same := after_arrangement store (emptyBucket pages name)
  have left : (store.after (emptyBucket pages name)).buckets =
      store.buckets.insert name (lockedPart store.denied bucket) := first.buckets
  have found' : (store.after (emptyBucket pages name)).buckets[name]? =
      some (lockedPart store.denied bucket) := by
    rw [left, Std.ExtTreeMap.getElem?_insert_self]
  have enough' : pageCount (store.after (emptyBucket pages name)).pageSize
      (lockedPart store.denied bucket).objects.size ≤ pages := by
    rw [pageSize_of_arrangement same]
    exact (pageCount_mono _ (size_lockedPart_le _ _)).trans enough
  have second := emptyBucket_yields (serves.of_arrangement same) found' enough'
  rw [denied_of_arrangement same, left, lockedPart_lockedPart, insert_insert, ← left] at second
  refine ⟨second.buckets, ?_⟩
  by_cases free : ∀ key ∈ bucket.keys, key ∉ store.denied
  · have ending := first.ending
    have ending' := second.ending
    rw [emptyingResult, if_pos free] at ending
    rw [emptyingResult_lockedPart_of_free free] at ending'
    exact .inl ⟨_, ending, ending'⟩
  · have ending := first.ending
    have ending' := second.ending
    rw [emptyingResult_lockedPart_of_locked free] at ending'
    rw [emptyingResult, if_neg free] at ending ending'
    exact .inr ⟨_, ending, ending'⟩

/-- One of the four objects of the album cannot be deleted, and both walks say so. -/
theorem emptying_repeats_album :
    albumStore.Serves ∧ albumStore.buckets["photos"]? = some album ∧
      pageCount albumStore.pageSize album.objects.size = 2 ∧ album.keys = ["a", "b", "c", "d"] ∧
      albumStore.denied = ["b"] ∧
      albumStore.Ends (emptyBucket 2 "photos")
        (.error (.partialDelete "photos" [deniedFailure "b"])) ∧
      (albumStore.after (emptyBucket 2 "photos")).Ends (emptyBucket 2 "photos")
        (.error (.partialDelete "photos" [deniedFailure "b"])) ∧
      Repeats 2 albumStore "photos" := by
  have serves : albumStore.Serves := ⟨rfl, rfl, rfl, by decide⟩
  have found : albumStore.buckets["photos"]? = some album := Std.ExtTreeMap.getElem?_insert_self
  have count : pageCount albumStore.pageSize album.objects.size = 2 := by
    have : album.objects.size = 4 := by simp [album, Std.ExtTreeMap.size_insert]
    rw [this]
    rfl
  have repeated := emptying_repeats serves found count.le
  have result : emptyingResult albumStore.denied "photos" album =
      .error (.partialDelete "photos" [deniedFailure "b"]) := by cbv
  have first := (emptyBucket_yields serves found count.le).ending
  rw [result] at first
  have second : (albumStore.after (emptyBucket 2 "photos")).Ends (emptyBucket 2 "photos")
      (.error (.partialDelete "photos" [deniedFailure "b"])) := by
    rcases repeated.reported with ⟨_, succeeded, -⟩ | ⟨_, failed, again⟩
    · cases first.symm.trans succeeded
    · cases first.symm.trans failed
      exact again
  exact ⟨serves, found, count, by cbv, rfl, first, second, repeated⟩

end BucketMemory

end CloudOps
