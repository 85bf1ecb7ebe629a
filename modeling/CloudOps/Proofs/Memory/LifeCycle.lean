import CloudOps.Proofs.Memory.Walks
import Mathlib.Data.List.Dedup

/-!
# The life of a bucket in a store in memory

A bucket is made, files are uploaded to it, and it is emptied and removed.

* `Upload`, `uploadAll`: uploads one after another. `stored`: the objects they leave;
  `getElem?_stored`: under a key, the last upload counts.
* `makeBucket_yields`, `uploadAll_yields`, `emptyAndRemoveBucket_yields`: the three parts.
* `life_cycle`: all of it together. No trace of the bucket is left.
-/

namespace CloudOps

/-- A file that is uploaded: the key, the path of the file, and what is in it. -/
structure Upload where
  key : String
  path : String
  body : ByteArray

/-- Uploads one after another. -/
def uploadAll (bucket : String) (uploads : List Upload) : BucketAction Unit :=
  uploads.forM fun upload => uploadFile (.ok upload.body) bucket upload.key upload.path

/-- The keys of some uploads, each once. -/
def distinctKeys (uploads : List Upload) : List String := (uploads.map Upload.key).dedup

/-- What was uploaded last under a key. -/
def lastBody? (uploads : List Upload) (key : String) : Option ByteArray :=
  (uploads.reverse.find? (·.key = key)).map Upload.body

/-! ## The objects that uploads leave -/

/-- The objects behind some uploads. -/
def stored (uploads : List Upload) (objects : Std.ExtTreeMap String ByteArray) :
    Std.ExtTreeMap String ByteArray :=
  uploads.foldl (fun objects upload => objects.insert upload.key upload.body) objects

theorem lastBody?_cons (upload : Upload) (uploads : List Upload) (key : String) :
    lastBody? (upload :: uploads) key =
      (lastBody? uploads key).or (if upload.key = key then some upload.body else none) := by
  rw [lastBody?, List.reverse_cons, List.find?_append, List.find?_singleton, Option.map_or]
  by_cases same : upload.key = key <;> simp [same, lastBody?]

/-- Under a key there is what was uploaded last, or what was there before. -/
theorem getElem?_stored (uploads : List Upload) (objects : Std.ExtTreeMap String ByteArray)
    (key : String) : (stored uploads objects)[key]? = (lastBody? uploads key).or objects[key]? := by
  induction uploads generalizing objects with
  | nil => rfl
  | cons upload uploads ih =>
    have first : (objects.insert upload.key upload.body)[key]? =
        (if upload.key = key then some upload.body else none).or objects[key]? := by
      rw [Std.ExtTreeMap.getElem?_insert]
      by_cases same : upload.key = key <;> simp [same]
    rw [stored, List.foldl_cons, ← stored, ih, first, lastBody?_cons, Option.or_assoc]

theorem isSome_lastBody? (uploads : List Upload) (key : String) :
    (lastBody? uploads key).isSome ↔ key ∈ distinctKeys uploads := by
  simp [lastBody?, distinctKeys]

/-- A bucket with nothing but uploads. -/
def StoredBucket.ofUploads (uploads : List Upload) : StoredBucket := ⟨none, stored uploads ∅, none⟩

namespace StoredBucket

theorem mem_keys_ofUploads {uploads : List Upload} {key : String} :
    key ∈ (ofUploads uploads).keys ↔ key ∈ distinctKeys uploads := by
  rw [mem_keys, Std.ExtTreeMap.mem_iff_isSome_getElem?, ofUploads, getElem?_stored,
    Std.ExtTreeMap.getElem?_empty, Option.or_none, isSome_lastBody?]

/-- There are as many objects as distinct keys. -/
theorem size_ofUploads (uploads : List Upload) :
    (ofUploads uploads).objects.size = (distinctKeys uploads).length := by
  have nodup : (ofUploads uploads).keys.Nodup :=
    (ofUploads uploads).keys_ascending.imp fun less same => (same ▸ less).false
  rw [← length_keys]
  exact ((List.perm_ext_iff_of_nodup nodup (List.nodup_dedup _)).2
    fun _ => mem_keys_ofUploads).length_eq

end StoredBucket

namespace BucketMemory

/-! ## The three parts -/

theorem erase_insert (buckets : Std.ExtTreeMap String StoredBucket) (name : String)
    (bucket : StoredBucket) : (buckets.insert name bucket).erase name = buckets.erase name := by
  refine Std.ExtTreeMap.ext_getElem? fun other => ?_
  simp only [Std.ExtTreeMap.getElem?_erase, Std.ExtTreeMap.getElem?_insert]
  split <;> rfl

/-- Removing what is not there changes nothing. -/
theorem erase_absent {buckets : Std.ExtTreeMap String StoredBucket} {name : String}
    (absent : buckets[name]? = none) : buckets.erase name = buckets := by
  refine Std.ExtTreeMap.ext_getElem? fun other => ?_
  rw [Std.ExtTreeMap.getElem?_erase]
  split
  · next same => rw [← Std.LawfulEqCmp.compare_eq_iff_eq.1 same, absent]
  · rfl

variable {store : BucketMemory} {name : String}

/-- A new bucket is empty. -/
theorem makeBucket_yields (quiet : store.Quiet) (fresh : store.buckets[name]? = none) :
    Yields (makeBucket name).run store (.ok ()) (store.buckets.insert name (.ofUploads [])) 0 := by
  have absent : store.buckets.contains name = false := by
    rw [Std.ExtTreeMap.contains_eq_isSome_getElem?, fresh]
    rfl
  have created : (answer (.createBucket name) store).1 = .ok () ∧
      (answer (.createBucket name) store).2.buckets =
        store.buckets.insert name (.ofUploads []) := by
    rw [answer_of_faultless (quiet.faultOf? _)]
    simp [perform, hasBucket, absent, addBucket]
    rfl
  refine .bind (.perform created.1 created.2) fun made same kept => ?_
  refine .bind (.log _ _ made) fun later same' kept' => ?_
  have visible : (answer (.awaitPresence name) later).1 = .ok () ∧
      (answer (.awaitPresence name) later).2.buckets = later.buckets := by
    rw [answer_of_faultless (((quiet.of_arrangement same).of_arrangement same').faultOf? _)]
    simp [perform, hasBucket, kept', kept]
  rw [← kept, ← kept']
  exact .perform visible.1 visible.2

/-- One upload stores one object. -/
theorem uploadFile_yields {bucket : StoredBucket} (quiet : store.Quiet)
    (found : store.buckets[name]? = some bucket) (key path : String) (body : ByteArray) :
    Yields (uploadFile (.ok body) name key path).run store (.ok ())
      (store.buckets.insert name { bucket with objects := bucket.objects.insert key body }) 0 := by
  have put : (answer (.putObject name key (.whole body)) store).1 = .ok () ∧
      (answer (.putObject name key (.whole body)) store).2.buckets =
        store.buckets.insert name { bucket with objects := bucket.objects.insert key body } := by
    rw [answer_of_faultless (quiet.faultOf? _)]
    simp [perform, found, addObject, change]
  refine .bind (.perform put.1 put.2) fun later _ kept => ?_
  rw [← kept]
  exact .log _ _ later

/-- Uploads store their objects. -/
theorem uploadAll_yields {bucket : StoredBucket} (quiet : store.Quiet)
    (found : store.buckets[name]? = some bucket) (uploads : List Upload) :
    Yields (uploadAll name uploads).run store (.ok ())
      (store.buckets.insert name { bucket with objects := stored uploads bucket.objects }) 0 := by
  induction uploads generalizing store bucket with
  | nil =>
    rw [stored, List.foldl_nil, insert_self found]
    exact .done _ store
  | cons upload uploads ih =>
    refine .bind (uploadFile_yields quiet found upload.key upload.path upload.body)
      fun later same kept => ?_
    have found' : later.buckets[name]? = some
        { bucket with objects := bucket.objects.insert upload.key upload.body } := by
      rw [kept, Std.ExtTreeMap.getElem?_insert_self]
    have rest := ih (quiet.of_arrangement same) found'
    rw [kept, insert_insert] at rest
    exact rest

/-- A bucket without objects is removed. -/
theorem removeBucket_yields {bucket : StoredBucket} (quiet : store.Quiet)
    (found : store.buckets[name]? = some bucket) (bare : bucket.keys = []) :
    Yields (removeBucket name).run store (.ok ()) (store.buckets.erase name) 0 := by
  have deleted : (answer (.deleteBucket name) store).1 = .ok () ∧
      (answer (.deleteBucket name) store).2.buckets = store.buckets.erase name := by
    rw [answer_of_faultless (quiet.faultOf? _)]
    simp [perform, found, bare]
  refine .bind (.perform deleted.1 deleted.2) fun removed same kept => ?_
  refine .bind (.log _ _ removed) fun later same' kept' => ?_
  have gone : (answer (.awaitAbsence name) later).1 = .ok () ∧
      (answer (.awaitAbsence name) later).2.buckets = later.buckets := by
    rw [answer_of_faultless (((quiet.of_arrangement same).of_arrangement same').faultOf? _)]
    simp [perform, hasBucket, kept', kept]
  refine .bind (.perform gone.1 gone.2) fun last _ left => ?_
  rw [← kept, ← kept', ← left]
  exact .log _ _ last

theorem keys_lockedPart {denied : List String} {bucket : StoredBucket}
    (free : ∀ key ∈ bucket.keys, key ∉ denied) : (lockedPart denied bucket).keys = [] := by
  rw [keys_lockedPart_eq_filter, List.filter_eq_nil_iff]
  intro key held
  simpa using free key held

/-- A bucket whose objects can all be deleted is emptied and removed. -/
theorem emptyAndRemoveBucket_yields {pages : Nat} {bucket : StoredBucket} (quiet : store.Quiet)
    (found : store.buckets[name]? = some bucket) (free : ∀ key ∈ bucket.keys, key ∉ store.denied)
    (enough : pageCount store.pageSize bucket.objects.size ≤ pages) :
    Yields (emptyAndRemoveBucket pages name).run store (.ok bucket.objects.size)
      (store.buckets.erase name) (pageCount store.pageSize bucket.objects.size) := by
  have emptied := emptyBucket_yields quiet.serves found enough
  rw [emptyingResult, if_pos free] at emptied
  rw [← Nat.zero_add (pageCount _ _)]
  refine .bind emptied fun bare same kept => ?_
  refine .bind (.log _ _ bare) fun later same' kept' => ?_
  have found' : later.buckets[name]? = some (lockedPart store.denied bucket) := by
    rw [kept', kept, Std.ExtTreeMap.getElem?_insert_self]
  have removed := removeBucket_yields ((quiet.of_arrangement same).of_arrangement same') found'
    (keys_lockedPart free)
  refine .bind removed fun last _ left => ?_
  rw [← erase_insert store.buckets name (lockedPart store.denied bucket), ← kept, ← kept', ← left]
  exact .done _ last

/-! ## All of it -/

/-- The store behind an action. -/
def after {α : Type} (store : BucketMemory) (action : BucketAction α) : BucketMemory :=
  (action.run.run answer store).state

@[simp] theorem after_arrangement {α : Type} (store : BucketMemory) (action : BucketAction α) :
    (store.after action).arrangement = store.arrangement :=
  run_arrangement action.run store

/-- The action ends with this result under the store. -/
def Ends {α : Type} (store : BucketMemory) (action : BucketAction α) (result : Except Error α) :
    Prop :=
  (action.run.run answer store).ending = .value result

/-- The store with a new bucket and some uploads in it. -/
def filled (store : BucketMemory) (name : String) (uploads : List Upload) : BucketMemory :=
  (store.after (makeBucket name)).after (uploadAll name uploads)

@[simp] theorem filled_arrangement (store : BucketMemory) (name : String) (uploads : List Upload) :
    (store.filled name uploads).arrangement = store.arrangement := by
  rw [filled, after_arrangement, after_arrangement]

/-- Uploads to a new bucket. -/
theorem filling_yields (quiet : store.Quiet) (fresh : store.buckets[name]? = none)
    (uploads : List Upload) :
    Yields (uploadAll name uploads).run (store.after (makeBucket name)) (.ok ())
      (store.buckets.insert name (.ofUploads uploads)) 0 := by
  have made : (store.after (makeBucket name)).buckets = store.buckets.insert name (.ofUploads []) :=
    (makeBucket_yields quiet fresh).buckets
  have found : (store.after (makeBucket name)).buckets[name]? = some (.ofUploads []) := by
    rw [made, Std.ExtTreeMap.getElem?_insert_self]
  have filling := uploadAll_yields (quiet.of_arrangement (after_arrangement ..)) found uploads
  rw [made, insert_insert] at filling
  exact filling

/-- What the life of a bucket comes to. -/
structure LifeCycle (pages : Nat) (store : BucketMemory) (name : String) (uploads : List Upload) :
    Prop where
  /-- The bucket is made. -/
  made : store.Ends (makeBucket name) (.ok ())
  /-- Every file is uploaded. -/
  uploaded : (store.after (makeBucket name)).Ends (uploadAll name uploads) (.ok ())
  /-- Then there is under each key what was uploaded last under it, and nothing else. -/
  held : ∀ key, (store.filled name uploads).object? name key = lastBody? uploads key
  /-- A listing gives the distinct keys in the order of their bytes. -/
  listed : ∃ keys, (store.filled name uploads).Ends (listObjects pages name) (.ok keys) ∧
    keys.Pairwise (Text.bytes · < Text.bytes ·) ∧ ∀ key, key ∈ keys ↔ key ∈ uploads.map Upload.key
  /-- The removal gives their number, and leaves the buckets that were there before. Whether the
  bucket was listed does not matter. -/
  removed : ∀ last, last = store.filled name uploads ∨
      last = (store.filled name uploads).after (listObjects pages name) →
    last.Ends (emptyAndRemoveBucket pages name) (.ok (distinctKeys uploads).length) ∧
      (last.after (emptyAndRemoveBucket pages name)).buckets = store.buckets

/-- **The life of a bucket.** Nothing is left of a bucket that was made, filled, emptied and
removed. -/
theorem life_cycle {pages : Nat} {store : BucketMemory} {name : String} {uploads : List Upload}
    (quiet : store.Quiet) (fresh : store.buckets[name]? = none)
    (free : ∀ upload ∈ uploads, upload.key ∉ store.denied)
    (enough : pageCount store.pageSize (distinctKeys uploads).length ≤ pages) :
    LifeCycle pages store name uploads := by
  have filling := filling_yields quiet fresh uploads
  have full : (store.filled name uploads).buckets =
      store.buckets.insert name (.ofUploads uploads) := filling.buckets
  have found : (store.filled name uploads).buckets[name]? = some (.ofUploads uploads) := by
    rw [full, Std.ExtTreeMap.getElem?_insert_self]
  rw [← StoredBucket.size_ofUploads] at enough
  have listing : Yields (listObjects pages name).run (store.filled name uploads) _ _ _ :=
    listObjects_yields (quiet.of_arrangement (filled_arrangement ..)).serves found
      (by rwa [pageSize_of_arrangement (filled_arrangement ..)])
  have free' : ∀ key ∈ (StoredBucket.ofUploads uploads).keys, key ∉ store.denied := by
    intro key held
    rw [StoredBucket.mem_keys_ofUploads, distinctKeys, List.mem_dedup] at held
    obtain ⟨upload, sent, rfl⟩ := List.mem_map.1 held
    exact free upload sent
  refine ⟨(makeBucket_yields quiet fresh).ending, filling.ending, fun key => ?held,
    ⟨_, listing.ending, StoredBucket.keys_ascending_bytes _, fun key => ?listed⟩,
    fun last reached => ?removed⟩
  case held =>
    rw [object?, found, Option.bind_some, StoredBucket.ofUploads, getElem?_stored,
      Std.ExtTreeMap.getElem?_empty, Option.or_none]
  case listed =>
    rw [StoredBucket.mem_keys_ofUploads, distinctKeys, List.mem_dedup]
  case removed =>
    obtain ⟨same, kept⟩ : last.arrangement = store.arrangement ∧
        last.buckets = (store.filled name uploads).buckets := by
      rcases reached with rfl | rfl
      · exact ⟨filled_arrangement .., rfl⟩
      · exact ⟨by simp, listing.buckets⟩
    rw [← denied_of_arrangement same] at free'
    rw [← pageSize_of_arrangement same] at enough
    rw [← kept] at found
    have removing := emptyAndRemoveBucket_yields (quiet.of_arrangement same) found free' enough
    rw [StoredBucket.size_ofUploads, kept, full, erase_insert, erase_absent fresh] at removing
    exact ⟨removing.ending, removing.buckets⟩

/-- Four uploads under three keys. -/
def drafts : List Upload :=
  [⟨"c", "draft.txt", ⟨#[1]⟩⟩, ⟨"a", "notes.txt", ⟨#[2]⟩⟩, ⟨"c", "final.txt", ⟨#[3]⟩⟩,
    ⟨"d", "empty.txt", ⟨#[]⟩⟩]

theorem life_cycle_drafts :
    albumStore.Quiet ∧ albumStore.buckets["scratch"]? = none ∧
      (∀ upload ∈ drafts, upload.key ∉ albumStore.denied) ∧ distinctKeys drafts = ["a", "c", "d"] ∧
      pageCount albumStore.pageSize (distinctKeys drafts).length = 2 ∧
      lastBody? drafts "c" = some ⟨#[3]⟩ ∧ LifeCycle 2 albumStore "scratch" drafts := by
  have quiet : albumStore.Quiet := ⟨fun _ => rfl, rfl, by decide⟩
  have fresh : albumStore.buckets["scratch"]? = none := by
    simp [albumStore]
  have free : ∀ upload ∈ drafts, upload.key ∉ albumStore.denied := by
    decide
  have count : pageCount albumStore.pageSize (distinctKeys drafts).length = 2 := by
    decide
  exact ⟨quiet, fresh, free, by decide, count, rfl, life_cycle quiet fresh free count.le⟩

end BucketMemory

end CloudOps
