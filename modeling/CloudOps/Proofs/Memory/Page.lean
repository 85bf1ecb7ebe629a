import CloudOps.Memory.Buckets
import CloudOps.Proofs.Text.ByteOrder

/-!
# Pages of a listing

* `BucketMemory.behind`: the keys behind a token.
* `BucketMemory.pageCount`: how many pages a listing has.
* `BucketMemory.page_cases`: a page holds all keys behind its token and is the last one, or its own
  token leaves exactly the keys that it does not hold.
* `StoredBucket.keys_ascending`, `BucketMemory.keys_removeKeys`: the keys of a bucket, and what is
  left of them when some are removed.
-/

namespace CloudOps

/-! ## The keys of a bucket -/

namespace StoredBucket

/-- The keys of a bucket ascend. -/
theorem keys_ascending (bucket : StoredBucket) : bucket.keys.Pairwise (· < ·) :=
  bucket.objects.ordered_keys.imp compare_lt_iff_lt.1

/-- The keys of a bucket ascend in the order of their bytes. -/
theorem keys_ascending_bytes (bucket : StoredBucket) :
    bucket.keys.Pairwise (Text.bytes · < Text.bytes ·) :=
  bucket.keys_ascending.imp Text.lt_iff_bytes_lt.1

theorem mem_keys {bucket : StoredBucket} {key : String} :
    key ∈ bucket.keys ↔ key ∈ bucket.objects :=
  Std.ExtTreeMap.mem_keys

theorem length_keys (bucket : StoredBucket) : bucket.keys.length = bucket.objects.size :=
  Std.ExtTreeMap.length_keys

end StoredBucket

namespace BucketMemory

theorem getElem?_foldl_erase (keys : List String) (objects : Std.ExtTreeMap String ByteArray)
    (key : String) :
    (keys.foldl (fun objects key => objects.erase key) objects)[key]? =
      if key ∈ keys then none else objects[key]? := by
  induction keys generalizing objects with
  | nil => simp
  | cons first keys ih =>
    rw [List.foldl_cons, ih, Std.ExtTreeMap.getElem?_erase]
    rcases eq_or_ne first key with rfl | other
    · simp
    · simp [other, other.symm, Std.LawfulEqCmp.compare_eq_iff_eq]

/-- Objects are removed by their keys alone. -/
theorem removeKeys_eq (keys : List String) (bucket : StoredBucket) :
    removeKeys keys bucket =
      { bucket with objects := bucket.objects.filter fun key _ => decide (key ∉ keys) } := by
  rw [removeKeys]
  congr 1
  refine Std.ExtTreeMap.ext_getElem? fun key => ?_
  rw [getElem?_foldl_erase, Std.ExtTreeMap.getElem?_filter']
  by_cases h : key ∈ keys <;> cases bucket.objects[key]? <;> simp [h, Option.filter]

/-- The keys that are left in a bucket. -/
theorem keys_removeKeys (keys : List String) (bucket : StoredBucket) :
    (removeKeys keys bucket).keys = bucket.keys.filter (· ∉ keys) := by
  rw [removeKeys_eq]
  exact Std.ExtTreeMap.keys_filter_key

theorem removeKeys_append (keys keys' : List String) (bucket : StoredBucket) :
    removeKeys (keys ++ keys') bucket = removeKeys keys' (removeKeys keys bucket) := by
  simp only [removeKeys, List.foldl_append]

/-! ## The keys behind a token -/

/-- The keys behind a token; without a token, all of them. -/
def behind (keys : List String) (token : Option String) : List String :=
  keys.filter fun key => token.all (· < key)

@[simp] theorem behind_none (keys : List String) : behind keys none = keys := by
  simp [behind]

theorem mem_behind {keys : List String} {token : Option String} {key : String} :
    key ∈ behind keys token ↔ key ∈ keys ∧ ∀ t, token = some t → t < key := by
  cases token <;> simp [behind]

/-- The last of ascending keys is the greatest. -/
theorem le_of_getLast? {keys : List String} {t : String} (ascending : keys.Pairwise (· < ·))
    (last : keys.getLast? = some t) : ∀ key ∈ keys, key ≤ t := by
  obtain ⟨init, rfl⟩ := List.getLast?_eq_some_iff.1 last
  intro key h
  rcases List.mem_append.1 h with h | h
  · exact ((List.pairwise_append.1 ascending).2.2 key h t (by simp)).le
  · exact (List.mem_singleton.1 h).le

/-- Behind the last key of a first part of ascending keys are those of the rest. -/
theorem filter_lt_append {front rest : List String} {t : String}
    (ascending : (front ++ rest).Pairwise (· < ·)) (last : front.getLast? = some t) :
    (front ++ rest).filter (t < ·) = rest := by
  obtain ⟨ascending_front, -, cross⟩ := List.pairwise_append.1 ascending
  have before : ∀ key ∈ front, ¬ t < key := fun key h =>
    (le_of_getLast? ascending_front last key h).not_gt
  have after : ∀ key ∈ rest, t < key := cross t (List.mem_of_getLast? last)
  rw [List.filter_append, List.filter_eq_nil_iff.2 (by simpa using before),
    List.filter_eq_self.2 (by simpa using after), List.nil_append]

/-- Behind a token that lies behind another, only the keys behind the other matter. -/
theorem behind_behind {keys : List String} {token : Option String} {t : String}
    (later : ∀ t', token = some t' → t' < t) :
    behind (behind keys token) (some t) = behind keys (some t) := by
  rw [behind, behind, behind, List.filter_filter]
  refine List.filter_congr fun key _ => ?_
  cases token with
  | none => simp
  | some t' =>
    have : t' < t := later t' rfl
    simpa using this.trans

/-! ## Pages -/

/-- How many pages a listing of so many keys has: a whole number of pages, and at least one. -/
def pageCount (size : Option Nat) (keys : Nat) : Nat :=
  match size with
  | none => 1
  | some size => max 1 ((keys + size - 1) / size)

theorem pageCount_pos (size : Option Nat) (keys : Nat) : 0 < pageCount size keys := by
  cases size with
  | none => exact Nat.one_pos
  | some size => exact Nat.lt_of_lt_of_le Nat.one_pos (Nat.le_max_left _ _)

/-- Keys that fit on one page have one page. -/
theorem pageCount_of_fits {size keys : Nat} (positive : 0 < size) (fits : keys ≤ size) :
    pageCount (some size) keys = 1 := by
  have : (keys + size - 1) / size < 2 := by
    rw [Nat.div_lt_iff_lt_mul positive]
    omega
  simp only [pageCount]
  omega

/-- Behind a full page, the other keys have one page less. -/
theorem pageCount_of_more {size keys : Nat} (positive : 0 < size) (more : size < keys) :
    pageCount (some size) keys = pageCount (some size) (keys - size) + 1 := by
  have split : (keys + size - 1) / size = (keys - size + size - 1) / size + 1 := by
    rw [← Nat.add_div_right _ positive]
    congr 1
    omega
  have : 0 < (keys - size + size - 1) / size := Nat.div_pos (by omega) positive
  simp only [pageCount, split]
  omega

theorem pageCount_mono (size : Option Nat) {keys keys' : Nat} (le : keys ≤ keys') :
    pageCount size keys ≤ pageCount size keys' := by
  cases size with
  | none => exact Nat.le_refl 1
  | some size =>
    have : (keys + size - 1) / size ≤ (keys' + size - 1) / size :=
      Nat.div_le_div_right (by omega)
    simp only [pageCount]
    omega

/-- No listing has more pages than keys, apart from the first. -/
theorem pageCount_le {size : Option Nat} (roomy : size ≠ some 0) (keys : Nat) :
    pageCount size keys ≤ keys + 1 := by
  cases size with
  | none => exact Nat.le_add_left 1 keys
  | some size =>
    have positive : 0 < size := Nat.pos_of_ne_zero fun zero => roomy (congrArg some zero)
    have : (keys + size - 1) / size ≤ keys := by
      rw [Nat.div_le_iff_le_mul_add_pred positive]
      have : keys ≤ size * keys := Nat.le_mul_of_pos_left keys positive
      omega
    simp only [pageCount]
    omega

/-- A page with a token leaves exactly the keys behind the token, and these have one page less. -/
structure Continues (size : Option Nat) (keys : List String) (token : Option String)
    (served : List String) (t : String) : Prop where
  split : served ++ behind keys (some t) = behind keys token
  greatest : ∀ key ∈ served, key ≤ t
  own : t ∈ served
  count : pageCount size (behind keys token).length =
    pageCount size (behind keys (some t)).length + 1

/-- **Pages.** A page holds all keys behind its token and is the last one, or it has a token and
continues there. -/
theorem page_cases {size : Option Nat} (roomy : size ≠ some 0) {keys : List String}
    (ascending : keys.Pairwise (· < ·)) (token : Option String) :
    (page size keys token = ⟨behind keys token, none⟩ ∧
      pageCount size (behind keys token).length = 1) ∨
    ∃ served t, page size keys token = ⟨served, some t⟩ ∧ Continues size keys token served t := by
  cases size with
  | none => exact .inl ⟨rfl, rfl⟩
  | some size =>
    have positive : 0 < size := Nat.pos_of_ne_zero fun zero => roomy (congrArg some zero)
    have page_eq : page (some size) keys token = ⟨(behind keys token).take size,
      if size < (behind keys token).length then ((behind keys token).take size).getLast?
      else none⟩ := rfl
    by_cases more : size < (behind keys token).length
    · have full : (behind keys token).take size ≠ [] := by
        intro empty
        have := congrArg List.length empty
        simp only [List.length_take, List.length_nil] at this
        omega
      obtain ⟨t, last⟩ := Option.isSome_iff_exists.1 (List.getLast?_isSome.2 full)
      have own := List.mem_of_getLast? last
      have later := (mem_behind.1 (List.mem_of_mem_take own)).2
      have sorted : (behind keys token).Pairwise (· < ·) := ascending.filter _
      have rest : behind keys (some t) = (behind keys token).drop size := by
        rw [← behind_behind later]
        conv_lhs => rw [← List.take_append_drop size (behind keys token)]
        exact filter_lt_append (by rwa [List.take_append_drop]) last
      refine .inr ⟨_, t, by rw [page_eq, if_pos more, last], ?_⟩
      exact {
        split := by rw [rest, List.take_append_drop]
        greatest := le_of_getLast? (sorted.sublist (List.take_sublist _ _)) last
        own := own
        count := by rw [rest, List.length_drop, pageCount_of_more positive more] }
    · have fits : (behind keys token).length ≤ size := Nat.not_lt.1 more
      refine .inl ⟨?_, pageCount_of_fits positive fits⟩
      rw [page_eq, if_neg more, List.take_of_length_le fits]

end BucketMemory

end CloudOps
