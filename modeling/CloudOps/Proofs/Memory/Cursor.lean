import CloudOps.Proofs.Memory.Calls
import CloudOps.Proofs.Memory.Page
import Mathlib

/-!
# A listing while the store changes

A lister goes through a bucket of a store in memory, and between its requests anything else may
happen to the store.

* `StoreChange`, `Move`: what may happen. `Cursor.after` is the state behind some moves.
* `Cursor.Stable`: the invariant. The token parts the keys: those up to it are passed. A key that
  was yielded is passed, and a passed key that was never missing was yielded.
* `Cursor.move_stable`, `Cursor.after_stable`: every move keeps it, and so do all.
* `cursor_stable`: nothing is yielded twice, out of order or out of nowhere, and an exhausted lister
  has missed no key that was there all the time.
-/

namespace CloudOps

open Program BucketMemory

/-- Something that happens to a store: a call, by anyone, or a change of what is arranged. -/
inductive StoreChange
  | call (c : BucketCall)
  | addBucket (name : String) (created : Option Instant)
  | addObject (name key : String) (body : ByteArray)
  | failOn (method : BucketMethod) (fault : Fault)
  | failListingFromPage (page : Nat)
  | denyDelete (key : String)

/-- The store after a change. -/
def StoreChange.apply (store : BucketMemory) : StoreChange → BucketMemory
  | .call c => (answer c store).2
  | .addBucket name created => store.addBucket name created
  | .addObject name key body => store.addObject name key body
  | .failOn method fault => store.failOn method fault
  | .failListingFromPage page => store.failListingFromPage page
  | .denyDelete key => store.denyDelete key

/-- The lister asks for its next page, or something else happens to the store. -/
inductive Move
  | next
  | other (change : StoreChange)

/-- The keys of a page, and the store that served it at that moment. -/
structure ServedPage where
  store : BucketMemory
  keys : List String

/-- A lister, the store, and the pages that the lister got so far. -/
structure Cursor where
  store : BucketMemory
  lister : ObjectLister
  served : List ServedPage

namespace Cursor

/-- The start of a walk. -/
def start (store : BucketMemory) (name : String) : Cursor := ⟨store, .start name, []⟩

/-- The keys that the lister has yielded, in order. -/
def yielded (cursor : Cursor) : List String := cursor.served.flatMap ServedPage.keys

/-- The state after a move; none if the lister's request fails. -/
def move (cursor : Cursor) : Move → Option Cursor
  | .other change => some { cursor with store := change.apply cursor.store }
  | .next =>
    let trace := cursor.lister.next.run answer cursor.store
    match trace.ending with
    | .value (.ok (some keys), lister) =>
      some ⟨trace.state, lister, cursor.served ++ [⟨cursor.store, keys⟩]⟩
    | .value (.ok none, lister) => some ⟨trace.state, lister, cursor.served⟩
    | _ => none

/-- The state after some moves; none if a request of the lister fails. -/
def after : List Move → Cursor → Option Cursor
  | [], cursor => some cursor
  | m :: moves, cursor => (cursor.move m).bind (after moves)

/-! ## Moves -/

/-- A listing request that succeeds gives a page of the keys of the bucket. -/
theorem page_of_answer {store : BucketMemory} {name : String} {token : Option String}
    {p : ObjectPage} (h : (answer (.listObjectsPage name token) store).1 = .ok p) :
    p = page store.pageSize (store.objectKeys name) token := by
  simp only [answer] at h
  split at h
  · cases h
  simp only [perform] at h
  split at h
  · cases h
  rw [objectKeys]
  cases found : store.buckets[name]? with
  | none => simp [found] at h
  | some bucket =>
    simp only [found] at h
    exact (Except.ok.inj h).symm

/-- The move of a lister that is not exhausted. -/
theorem move_next {cursor : Cursor} (fresh : cursor.lister.done = false) :
    cursor.move .next =
      match answer (.listObjectsPage cursor.lister.bucket cursor.lister.token) cursor.store with
      | (.error _, _) => none
      | (.ok (p : ObjectPage), later) =>
        some ⟨later, cursor.lister.advance p, cursor.served ++ [⟨cursor.store, p.keys⟩]⟩ := by
  simp only [move, ObjectLister.next, fresh, Bool.false_eq_true, if_false, Program.run]
  generalize answer _ cursor.store = given
  obtain ⟨e | p, later⟩ := given <;> rfl

/-- A request of the lister that succeeds: it is exhausted, or it gets a page of the keys that the
bucket has at that moment. -/
theorem move_next_cases {cursor moved : Cursor} (h : cursor.move .next = some moved) :
    (cursor.lister.done = true ∧ moved = cursor) ∨
    (cursor.lister.done = false ∧
      ∃ p, p = page cursor.store.pageSize (cursor.store.objectKeys cursor.lister.bucket)
          cursor.lister.token ∧
        moved.store.arrangement = cursor.store.arrangement ∧
        moved.lister = cursor.lister.advance p ∧
        moved.served = cursor.served ++ [⟨cursor.store, p.keys⟩]) := by
  cases done : cursor.lister.done with
  | true =>
    rw [move, ObjectLister.next_of_done done] at h
    exact .inl ⟨rfl, (Option.some.inj h).symm⟩
  | false =>
    refine .inr ⟨rfl, ?_⟩
    rw [move_next done] at h
    let c : BucketCall := .listObjectsPage cursor.lister.bucket cursor.lister.token
    have kept := answer_arrangement c cursor.store
    cases given : answer c cursor.store with
    | mk result later =>
      rw [given] at h kept
      cases result with
      | error e => cases h
      | ok p =>
        cases h
        exact ⟨p, page_of_answer (by rw [given]), kept, rfl, rfl⟩

@[simp] theorem change_pageSize (change : StoreChange) (store : BucketMemory) :
    (change.apply store).pageSize = store.pageSize := by
  cases change with
  | call c => exact pageSize_of_arrangement (answer_arrangement c store)
  | addObject name key body => exact pageSize_of_arrangement (change_arrangement store name _)
  | _ => rfl

/-! ## The invariant -/

/-- The lister is past a key: past its token, or exhausted. -/
def Passed (lister : ObjectLister) (key : String) : Prop :=
  lister.done = true ∨ ∃ t, lister.token = some t ∧ key ≤ t

/-- The key was in the bucket whenever a page was served. -/
def Steady (cursor : Cursor) (name key : String) : Prop :=
  ∀ served ∈ cursor.served, key ∈ served.store.objectKeys name

/-- The invariant of a walk. -/
structure Stable (name : String) (cursor : Cursor) : Prop where
  roomy : cursor.store.pageSize ≠ some 0
  own : cursor.lister.bucket = name
  ascending : cursor.yielded.Pairwise (· < ·)
  present : ∀ served ∈ cursor.served, ∀ key ∈ served.keys, key ∈ served.store.objectKeys name
  passed : ∀ key ∈ cursor.yielded, Passed cursor.lister key
  complete : ∀ key, Passed cursor.lister key → cursor.Steady name key → key ∈ cursor.yielded

theorem start_stable {store : BucketMemory} (roomy : store.pageSize ≠ some 0) (name : String) :
    Stable name (start store name) where
  roomy := roomy
  own := rfl
  ascending := .nil
  present := by simp [start]
  passed := by simp [start, yielded]
  complete := by simp [start, ObjectLister.start, Passed]

/-- How a page moves a lister that is not exhausted through ascending keys. -/
structure Advances (lister : ObjectLister) (keys : List String) (p : ObjectPage) : Prop where
  ascending : p.keys.Pairwise (· < ·)
  present : ∀ key ∈ p.keys, key ∈ keys
  behind : ∀ old, Passed lister old → ∀ key ∈ p.keys, old < key
  kept : ∀ old, Passed lister old → Passed (lister.advance p) old
  reached : ∀ key ∈ p.keys, Passed (lister.advance p) key
  covered : ∀ key ∈ keys, Passed (lister.advance p) key → Passed lister key ∨ key ∈ p.keys

theorem page_advances {lister : ObjectLister} (fresh : lister.done = false) {size : Option Nat}
    (roomy : size ≠ some 0) {keys : List String} (ascending : keys.Pairwise (· < ·)) :
    Advances lister keys (page size keys lister.token) := by
  have passed_iff (key : String) : Passed lister key ↔ ∃ t, lister.token = some t ∧ key ≤ t := by
    simp [Passed, fresh]
  have behind_iff {key : String} : key ∈ behind keys lister.token ↔
      key ∈ keys ∧ ¬ Passed lister key := by
    simp only [mem_behind, passed_iff, not_exists, not_and, not_le]
  have lt_of_passed {old key : String} (h : Passed lister old)
      (hk : key ∈ behind keys lister.token) : old < key := by
    obtain ⟨t, ht, le⟩ := (passed_iff old).1 h
    exact lt_of_le_of_lt le ((mem_behind.1 hk).2 t ht)
  have sorted : (behind keys lister.token).Pairwise (· < ·) := ascending.filter _
  rcases page_cases roomy ascending lister.token with ⟨served, -⟩ | ⟨front, t, served, continues⟩
  · rw [served]
    have done (key : String) : Passed (lister.advance ⟨behind keys lister.token, none⟩) key :=
      .inl (ObjectLister.advance_done_iff.2 rfl)
    exact {
      ascending := sorted
      present := fun key h => (behind_iff.1 h).1
      behind := fun old h key hk => lt_of_passed h hk
      kept := fun old _ => done old
      reached := fun key _ => done key
      covered := fun key h _ => by
        rw [behind_iff]
        tauto }
  · rw [served]
    have passed_iff' (key : String) : Passed (lister.advance ⟨front, some t⟩) key ↔ key ≤ t := by
      simp [Passed, ObjectLister.advance]
    have mem {key : String} (h : key ∈ front) : key ∈ behind keys lister.token := by
      rw [← continues.split]
      exact List.mem_append_left _ h
    exact {
      ascending := (List.pairwise_append.1 (continues.split ▸ sorted)).1
      present := fun key h => (behind_iff.1 (mem h)).1
      behind := fun old h key hk => lt_of_passed h (mem hk)
      kept := fun old h => (passed_iff' old).2 (lt_of_passed h (mem continues.own)).le
      reached := fun key h => (passed_iff' key).2 (continues.greatest key h)
      covered := fun key h now => by
        by_cases old : Passed lister key
        · exact .inl old
        · have left : key ∈ front ++ behind keys (some t) := by
            rw [continues.split]
            exact behind_iff.2 ⟨h, old⟩
          rcases List.mem_append.1 left with own | later
          · exact .inr own
          · exact absurd ((passed_iff' key).1 now) ((mem_behind.1 later).2 t rfl).not_ge }

theorem objectKeys_ascending (store : BucketMemory) (name : String) :
    (store.objectKeys name).Pairwise (· < ·) := by
  rw [objectKeys]
  split
  · exact StoredBucket.keys_ascending _
  · exact .nil

/-- Every move keeps the invariant. -/
theorem move_stable {name : String} {cursor moved : Cursor} {m : Move}
    (stable : Stable name cursor) (h : cursor.move m = some moved) : Stable name moved := by
  cases m with
  | other change =>
    cases h
    exact { stable with roomy := by rw [change_pageSize]; exact stable.roomy }
  | next =>
    rcases move_next_cases h with ⟨-, rfl⟩ | ⟨fresh, p, served, kept, lister, pages⟩
    · exact stable
    have advances : Advances cursor.lister (cursor.store.objectKeys name) p := by
      rw [served, stable.own]
      exact page_advances fresh stable.roomy (objectKeys_ascending _ _)
    have yielded : moved.yielded = cursor.yielded ++ p.keys := by
      simp [Cursor.yielded, pages]
    constructor
    case roomy =>
      rw [pageSize_of_arrangement kept]
      exact stable.roomy
    case own => rw [lister, ObjectLister.advance_bucket, stable.own]
    case ascending =>
      rw [yielded, List.pairwise_append]
      exact ⟨stable.ascending, advances.ascending,
        fun old h => advances.behind old (stable.passed old h)⟩
    case present =>
      rw [pages]
      intro page h
      rcases List.mem_append.1 h with h | h
      · exact stable.present page h
      · rw [List.mem_singleton.1 h]
        exact advances.present
    case passed =>
      rw [yielded, lister]
      intro key h
      rcases List.mem_append.1 h with h | h
      · exact advances.kept key (stable.passed key h)
      · exact advances.reached key h
    case complete =>
      rw [yielded, lister]
      intro key passed steady
      rw [Steady, pages] at steady
      have now : key ∈ cursor.store.objectKeys name := steady ⟨_, p.keys⟩ (by simp)
      have before : cursor.Steady name key := fun page h =>
        steady page (List.mem_append_left _ h)
      rcases advances.covered key now passed with old | own
      · exact List.mem_append_left _ (stable.complete key old before)
      · exact List.mem_append_right _ own

/-- All moves keep the invariant. -/
theorem after_stable {name : String} {cursor last : Cursor} {moves : List Move}
    (stable : Stable name cursor) (h : after moves cursor = some last) : Stable name last := by
  induction moves generalizing cursor with
  | nil =>
    cases h
    exact stable
  | cons m moves ih =>
    obtain ⟨moved, first, rest⟩ := Option.bind_eq_some_iff.1 h
    exact ih (move_stable stable first) rest

end Cursor

/-- What a walk shows, whatever happened to the store between its pages. -/
structure CursorReport (name : String) (cursor : Cursor) : Prop where
  /-- The keys ascend in the order of their bytes, so none is yielded twice. -/
  ascending : cursor.yielded.Pairwise (Text.bytes · < Text.bytes ·)
  /-- A key was in the bucket when its page was served. -/
  present : ∀ served ∈ cursor.served, ∀ key ∈ served.keys, key ∈ served.store.objectKeys name
  /-- An exhausted lister has yielded every key that was in the bucket all the time; it is enough
  that it was there whenever a page was served. -/
  complete : cursor.lister.done = true →
    ∀ key, (∀ served ∈ cursor.served, key ∈ served.store.objectKeys name) → key ∈ cursor.yielded

/-- **Cursor stability.** It holds after any moves in which no request of the lister fails. -/
theorem cursor_stable {store : BucketMemory} {name : String} {moves : List Move} {cursor : Cursor}
    (roomy : store.pageSize ≠ some 0)
    (walk : Cursor.after moves (.start store name) = some cursor) : CursorReport name cursor := by
  have stable := Cursor.after_stable (Cursor.start_stable roomy name) walk
  exact {
    ascending := stable.ascending.imp Text.lt_iff_bytes_lt.1
    present := stable.present
    complete := fun done key steady => stable.complete key (.inl done) steady }

/-- A store with one key on a page. -/
def galleryStore : BucketMemory where
  pageSize := some 1
  record := .empty
  buckets := (∅ : Std.ExtTreeMap String StoredBucket).insert "photos"
    ⟨none, ((∅ : Std.ExtTreeMap String ByteArray).insert "c" ⟨#[3]⟩).insert "a" ⟨#[1]⟩, none⟩
  denied := []
  failListingFrom := none
  pagesServed := 0

/-- Behind the first page its key goes, and keys come in front of it and behind it. -/
def galleryMoves : List Move :=
  [.next, .other (.call (.deleteObjects "photos" ["a"])),
    .other (.call (.putObject "photos" "A" (.whole ⟨#[]⟩))),
    .other (.call (.putObject "photos" "b" (.whole ⟨#[2]⟩))), .next, .next]

theorem cursor_stable_gallery :
    ∃ cursor, Cursor.after galleryMoves (.start galleryStore "photos") = some cursor ∧
      cursor.yielded = ["a", "b", "c"] ∧ cursor.lister.done = true ∧
      CursorReport "photos" cursor := by
  have walk : (Cursor.after galleryMoves (.start galleryStore "photos")).map
      (fun cursor => (cursor.yielded, cursor.lister.done)) = some (["a", "b", "c"], true) := by
    cbv
  obtain ⟨cursor, reached, shown⟩ := Option.map_eq_some_iff.1 walk
  rw [Prod.mk.injEq] at shown
  have roomy : galleryStore.pageSize ≠ some 0 := by decide
  exact ⟨cursor, reached, shown.1, shown.2, cursor_stable roomy reached⟩

end CloudOps
