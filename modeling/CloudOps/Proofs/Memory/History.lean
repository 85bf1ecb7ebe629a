import CloudOps.Proofs.Memory.Atomicity
import CloudOps.Proofs.Memory.Walks
import Mathlib

/-!
# What the history of a store in memory decides

What a store holds can be read off what happened to it, without the store: the last write counts.

* `Entry`, `History`: what is noted of the past of a store, and how a store comes about.
  `History.of_steps`: what every entry keeps holds behind every history.
* `Becomes`: what an entry makes of one bucket. `answer_becomes` and `Happens.becomes` say all that
  can happen to it; what follows does not look into the calls again.
* `Becomes.object?_iff`, `Becomes.policy?_iff`, `Becomes.present_iff`, `Becomes.date_iff`: what an
  entry makes of each thing that a store can be asked for.
* `Becomes.created_empty`, `Becomes.leaves_empty`: a bucket that is created is empty, and stays so
  until something is put there.
* `Standing`: an entry made something so, and no later one undid it. `standing_concat`: what one
  more entry makes of that.
* `history_decides`: all of it together.
-/

namespace CloudOps

open Program

/-! ## Entries -/

/-- What is noted of something that happened to a store. -/
inductive Entry
  | addBucket (name : String) (created : Option Instant)
  | addObject (name key : String) (body : ByteArray)
  | failOn (method : BucketMethod) (fault : Fault)
  | failListingFromPage (page : Nat)
  | denyDelete (key : String)
  /-- A call and the answer to it. -/
  | call (exchange : BucketExchange)

namespace Entry

/-- The entry stores this body under the key. -/
def Writes (name key : String) (body : ByteArray) : Entry → Prop
  | .addObject name' key' body' => name' = name ∧ key' = key ∧ body' = body
  | .call ⟨.putObject name' key' sent, .ok _⟩ => name' = name ∧ key' = key ∧ sent = .whole body
  | _ => False

/-- The entry deletes the key from the bucket, while these keys cannot be deleted. -/
def Deletes (denied : List String) (name key : String) : Entry → Prop
  | .call ⟨.deleteObjects name' keys, .ok _⟩ => name' = name ∧ key ∈ keys ∧ key ∉ denied
  | _ => False

/-- The entry sets up the bucket anew, whatever was there. -/
def Adds (name : String) : Entry → Prop
  | .addBucket name' _ => name' = name
  | _ => False

/-- With the entry the bucket begins to be there, with this date. -/
def Makes (name : String) (created : Option Instant) : Entry → Prop
  | .addBucket name' created' => name' = name ∧ created' = created
  | .call ⟨.createBucket name', .ok _⟩ => name' = name ∧ none = created
  | _ => False

/-- The entry removes the bucket. -/
def Removes (name : String) : Entry → Prop
  | .call ⟨.deleteBucket name', .ok _⟩ => name' = name
  | _ => False

/-- The entry gives the bucket this policy. -/
def SetsPolicy (name text : String) : Entry → Prop
  | .call ⟨.putBucketPolicy name' text', .ok _⟩ => name' = name ∧ text' = text
  | _ => False

/-- The entry does nothing of this to the bucket. -/
structure Spares (name : String) (entry : Entry) : Prop where
  writes : ∀ key body, ¬ entry.Writes name key body
  deletes : ∀ denied key, ¬ entry.Deletes denied name key
  adds : ¬ entry.Adds name
  makes : ∀ created, ¬ entry.Makes name created
  removes : ¬ entry.Removes name
  policy : ∀ text, ¬ entry.SetsPolicy name text

/-- The bucket that the entry is about. -/
def bucket? : Entry → Option String
  | .addBucket name _ => some name
  | .addObject name _ _ => some name
  | .call exchange => exchange.1.bucket?
  | _ => none

/-- An entry about another bucket, or about none. -/
theorem spares_of_other {name : String} {entry : Entry} (other : entry.bucket? ≠ some name) :
    entry.Spares name := by
  have other {name' : String} (about : entry.bucket? = some name') : name' ≠ name :=
    fun same => other (same ▸ about)
  cases entry with
  | addBucket name' created =>
    have := other rfl
    constructor <;> simp_all [Writes, Deletes, Adds, Makes, Removes, SetsPolicy]
  | addObject name' key body =>
    have := other rfl
    constructor <;> simp_all [Writes, Deletes, Adds, Makes, Removes, SetsPolicy]
  | call exchange =>
    obtain ⟨c, answer⟩ := exchange
    cases c <;> cases answer <;> constructor <;>
      simp_all [bucket?, BucketCall.bucket?, Writes, Deletes, Adds, Makes, Removes, SetsPolicy]
  | _ => constructor <;> simp [Writes, Deletes, Adds, Makes, Removes, SetsPolicy]

/-- A call that failed. -/
theorem spares_of_failed {c : BucketCall} (e : Error) (name : String) :
    (Entry.call ⟨c, .error e⟩).Spares name := by
  cases c <;> constructor <;> simp [Writes, Deletes, Adds, Makes, Removes, SetsPolicy]

/-- A call that only asks. -/
theorem spares_of_inquiry {c : BucketCall}
    (asks : c.method.asks = true) (given : c.Answer) (name : String) :
    (Entry.call ⟨c, given⟩).Spares name := by
  cases c <;> constructor <;>
    simp_all [BucketCall.method, BucketMethod.asks, Writes, Deletes, Adds, Makes, Removes,
      SetsPolicy]

/-- After the entry the object is no longer what an earlier entry made it. -/
def EndsObject (denied : List String) (name key : String) (entry : Entry) : Prop :=
  (∃ body, entry.Writes name key body) ∨ entry.Deletes denied name key ∨ entry.Adds name

/-- After the entry the policy is no longer what an earlier entry made it. -/
def EndsPolicy (name : String) (entry : Entry) : Prop :=
  (∃ text, entry.SetsPolicy name text) ∨ entry.Removes name ∨ entry.Adds name

/-- After the entry the date is no longer what an earlier entry made it. -/
def EndsDate (name : String) (entry : Entry) : Prop :=
  (∃ created, entry.Makes name created) ∨ entry.Removes name

/-- The entry makes nothing of a bucket that is empty. -/
structure LeavesEmpty (name : String) (entry : Entry) : Prop where
  stays : ¬ entry.EndsDate name
  writes : ∀ key body, ¬ entry.Writes name key body
  policy : ∀ text, ¬ entry.SetsPolicy name text

/-- The key that cannot be deleted from the entry on. -/
def denied? : Entry → Option String
  | .denyDelete key => some key
  | _ => none

end Entry

/-- The keys that cannot be deleted after some entries, the newest first. -/
def deniedKeys (past : List Entry) : List String := past.reverse.filterMap Entry.denied?

/-! ## What one entry does -/

open BucketMemory (purged) in
/-- All that an entry makes of one bucket, while these keys cannot be deleted. -/
inductive Becomes (denied : List String) (name : String) :
    Entry → Option StoredBucket → Option StoredBucket → Prop
  | spared {entry : Entry} {slot : Option StoredBucket} (spares : entry.Spares name) :
      Becomes denied name entry slot slot
  | added (created : Option Instant) (slot : Option StoredBucket) :
      Becomes denied name (.addBucket name created) slot
        (some { StoredBucket.empty with created })
  | arranged (key : String) (body : ByteArray) (bucket : StoredBucket) :
      Becomes denied name (.addObject name key body) (some bucket)
        (some { bucket with objects := bucket.objects.insert key body })
  | created : Becomes denied name (.call ⟨.createBucket name, .ok ()⟩) none (some .empty)
  /-- Only a bucket without objects is removed. -/
  | deleted (bucket : StoredBucket) (bare : bucket.keys = []) :
      Becomes denied name (.call ⟨.deleteBucket name, .ok ()⟩) (some bucket) none
  | purged (keys : List String) (failures : List DeleteFailure) (bucket : StoredBucket) :
      Becomes denied name (.call ⟨.deleteObjects name keys, .ok failures⟩) (some bucket)
        (some (purged denied keys bucket))
  | governed (text : String) (bucket : StoredBucket) :
      Becomes denied name (.call ⟨.putBucketPolicy name text, .ok ()⟩) (some bucket)
        (some { bucket with policy := some text })
  | stored (key : String) (body : ByteArray) (bucket : StoredBucket) :
      Becomes denied name (.call ⟨.putObject name key (.whole body), .ok ()⟩) (some bucket)
        (some { bucket with objects := bucket.objects.insert key body })

namespace BucketMemory

/-- There is nothing to delete from an empty bucket. -/
theorem purged_empty (denied keys : List String) : purged denied keys .empty = .empty := by
  refine congrArg (StoredBucket.mk none · none) (Std.ExtTreeMap.ext_getElem? fun key => ?_)
  rw [getElem?_foldl_erase]
  simp [StoredBucket.empty]

/-- What a call makes of a bucket when it ends with no fault. -/
theorem perform_becomes (store : BucketMemory) (c : BucketCall) (name : String) :
    Becomes store.denied name (.call ⟨c, (store.perform c).1⟩) store.buckets[name]?
      (store.perform c).2.buckets[name]? := by
  by_cases asks : c.method.asks = true
  · rw [perform_of_idle (.inr asks)]
    exact .spared (Entry.spares_of_inquiry asks _ name)
  by_cases about : c.bucket? = some name
  swap
  · rw [perform_elsewhere about]
    exact .spared (Entry.spares_of_other about)
  have there : store.hasBucket name = store.buckets[name]?.isSome :=
    Std.ExtTreeMap.contains_eq_isSome_getElem?
  cases found : store.buckets[name]? with
  | none =>
    rw [found, Option.isSome_none] at there
    cases c with
    | createBucket name' =>
      obtain rfl : name' = name := Option.some.inj about
      simp only [perform, there, Bool.false_eq_true, if_false, addBucket,
        Std.ExtTreeMap.getElem?_insert_self]
      exact .created
    | deleteBucket name' | deleteObjects name' _ | putBucketPolicy name' _ =>
      obtain rfl : name' = name := Option.some.inj about
      simp only [perform, found]
      exact .spared (Entry.spares_of_failed _ _)
    | putObject name' _ body =>
      obtain rfl : name' = name := Option.some.inj about
      cases body <;> simp only [perform, found] <;> exact .spared (Entry.spares_of_failed _ _)
    | _ => exact absurd rfl asks
  | some bucket =>
    rw [found, Option.isSome_some] at there
    cases c with
    | createBucket name' =>
      obtain rfl : name' = name := Option.some.inj about
      simp only [perform, there, if_true, found]
      exact .spared (Entry.spares_of_failed _ _)
    | deleteBucket name' =>
      obtain rfl : name' = name := Option.some.inj about
      simp only [perform, found]
      split
      · next bare =>
        rw [Std.ExtTreeMap.getElem?_erase_self]
        exact .deleted bucket (List.isEmpty_iff.1 bare)
      · simp only [found]
        exact .spared (Entry.spares_of_failed _ _)
    | deleteObjects name' keys =>
      obtain rfl : name' = name := Option.some.inj about
      simp only [perform, found, change_of_found found, Std.ExtTreeMap.getElem?_insert_self]
      exact .purged ..
    | putBucketPolicy name' text =>
      obtain rfl : name' = name := Option.some.inj about
      simp only [perform, found, change_of_found found, Std.ExtTreeMap.getElem?_insert_self]
      exact .governed ..
    | putObject name' key body =>
      obtain rfl : name' = name := Option.some.inj about
      cases body with
      | broken reason =>
        simp only [perform, found]
        exact .spared (Entry.spares_of_failed _ _)
      | whole bytes =>
        simp only [perform, found, addObject, change_of_found found,
          Std.ExtTreeMap.getElem?_insert_self]
        exact .stored ..
    | _ => exact absurd rfl asks

/-- What a call makes of a bucket. -/
theorem answer_becomes (c : BucketCall) (store : BucketMemory) (name : String) :
    Becomes store.denied name (.call ⟨c, (answer c store).1⟩) store.buckets[name]?
      (answer c store).2.buckets[name]? := by
  cases found : store.faultOf? c with
  | some fault =>
    rw [answer_of_fault found]
    exact .spared (Entry.spares_of_failed _ _)
  | none =>
    rw [answer_of_faultless found]
    exact perform_becomes store c name

end BucketMemory

/-- An entry leads from one store to the next. An object is set up in a bucket that exists. -/
inductive Happens : BucketMemory → Entry → BucketMemory → Prop
  | addBucket (store : BucketMemory) (name : String) (created : Option Instant) :
      Happens store (.addBucket name created) (store.addBucket name created)
  | addObject (store : BucketMemory) (name key : String) (body : ByteArray)
      (there : store.hasBucket name = true) :
      Happens store (.addObject name key body) (store.addObject name key body)
  | failOn (store : BucketMemory) (method : BucketMethod) (fault : Fault) :
      Happens store (.failOn method fault) (store.failOn method fault)
  | failListingFromPage (store : BucketMemory) (page : Nat) :
      Happens store (.failListingFromPage page) (store.failListingFromPage page)
  | denyDelete (store : BucketMemory) (key : String) :
      Happens store (.denyDelete key) (store.denyDelete key)
  | call (store : BucketMemory) (c : BucketCall) :
      Happens store (.call ⟨c, (BucketMemory.answer c store).1⟩) (BucketMemory.answer c store).2

namespace Happens

variable {store later : BucketMemory} {entry : Entry}

/-- What happens to a store happens to each of its buckets. -/
theorem becomes (happens : Happens store entry later) (name : String) :
    Becomes store.denied name entry store.buckets[name]? later.buckets[name]? := by
  cases happens with
  | addBucket name' created =>
    by_cases same : name' = name
    · subst same
      simp only [BucketMemory.addBucket, Std.ExtTreeMap.getElem?_insert_self]
      exact .added ..
    · have : compare name' name ≠ .eq := fun e => same (Std.LawfulEqCmp.compare_eq_iff_eq.1 e)
      simp only [BucketMemory.addBucket, Std.ExtTreeMap.getElem?_insert, this, if_false]
      exact .spared (Entry.spares_of_other fun e => same (Option.some.inj e))
  | addObject name' key body there =>
    obtain ⟨bucket, found⟩ : ∃ bucket, store.buckets[name']? = some bucket := by
      rwa [BucketMemory.hasBucket, Std.ExtTreeMap.contains_eq_isSome_getElem?,
        Option.isSome_iff_exists] at there
    rw [BucketMemory.addObject, BucketMemory.change_of_found found]
    by_cases same : name' = name
    · subst same
      rw [found, Std.ExtTreeMap.getElem?_insert_self]
      exact .arranged ..
    · have : compare name' name ≠ .eq := fun e => same (Std.LawfulEqCmp.compare_eq_iff_eq.1 e)
      simp only [Std.ExtTreeMap.getElem?_insert, this, if_false]
      exact .spared (Entry.spares_of_other fun e => same (Option.some.inj e))
  | failOn | failListingFromPage | denyDelete =>
    exact .spared (Entry.spares_of_other (Option.some_ne_none name).symm)
  | call c => exact BucketMemory.answer_becomes c store name

/-- Keys are denied from their entry on. -/
theorem denied (happens : Happens store entry later) :
    later.denied = entry.denied?.toList ++ store.denied := by
  cases happens with
  | addObject => exact BucketMemory.denied_of_arrangement (BucketMemory.change_arrangement ..)
  | call c => exact BucketMemory.denied_of_arrangement (BucketMemory.answer_arrangement c store)
  | _ => rfl

end Happens

/-! ## What one entry makes of an answer -/

namespace Becomes

variable {denied : List String} {name : String} {entry : Entry} {slot slot' : Option StoredBucket}

/-- Under a key there is what the entry writes, or what was there and stays. -/
theorem object?_iff (becomes : Becomes denied name entry slot slot') (key : String)
    (body : ByteArray) :
    slot'.bind (·.objects[key]?) = some body ↔ entry.Writes name key body ∨
      slot.bind (·.objects[key]?) = some body ∧ ¬ entry.EndsObject denied name key := by
  cases becomes with
  | spared spares =>
    simp [Entry.EndsObject, spares.writes, spares.deletes, spares.adds]
  | added created => simp [Entry.EndsObject, Entry.Writes, Entry.Adds, StoredBucket.empty]
  | arranged key' body' bucket | stored key' body' bucket =>
    by_cases same : key' = key
    · simp [Entry.EndsObject, Entry.Writes, same]
    · simp [Entry.EndsObject, Entry.Writes, Entry.Deletes, Entry.Adds, same,
        Std.ExtTreeMap.getElem?_insert]
  | created => simp [Entry.Writes, StoredBucket.empty]
  | deleted bucket bare =>
    have absent : key ∉ bucket.objects := by
      rw [← StoredBucket.mem_keys, bare]
      exact List.not_mem_nil
    simp [Entry.Writes, Std.ExtTreeMap.getElem?_eq_none absent]
  | purged keys failures bucket =>
    rw [Option.bind_some, BucketMemory.purged, BucketMemory.removeKeys,
      BucketMemory.getElem?_foldl_erase]
    by_cases gone : key ∈ keys ∧ key ∉ denied
    · simp [Entry.EndsObject, Entry.Writes, Entry.Deletes, gone]
    · simp [Entry.EndsObject, Entry.Writes, Entry.Deletes, Entry.Adds, gone]
  | governed text bucket => simp [Entry.EndsObject, Entry.Writes, Entry.Deletes, Entry.Adds]

/-- The policy is what the entry sets, or what it was and stays. -/
theorem policy?_iff (becomes : Becomes denied name entry slot slot') (text : String) :
    slot'.bind (·.policy) = some text ↔ entry.SetsPolicy name text ∨
      slot.bind (·.policy) = some text ∧ ¬ entry.EndsPolicy name := by
  cases becomes with
  | spared spares => simp [Entry.EndsPolicy, spares.policy, spares.removes, spares.adds]
  | _ =>
    simp [Entry.EndsPolicy, Entry.SetsPolicy, Entry.Removes, Entry.Adds, StoredBucket.empty,
      BucketMemory.purged, BucketMemory.removeKeys]

/-- The bucket is there if the entry makes it, or it was there and stays. -/
theorem present_iff (becomes : Becomes denied name entry slot slot') :
    slot'.isSome ↔ (∃ created, entry.Makes name created) ∨ slot.isSome ∧ ¬ entry.Removes name := by
  cases becomes with
  | spared spares => simp [spares.makes, spares.removes]
  | _ => simp [Entry.Makes, Entry.Removes]

/-- The date is what the entry makes it, or what it was and stays. -/
theorem date_iff (becomes : Becomes denied name entry slot slot') (created : Option Instant) :
    slot'.map (·.created) = some created ↔ entry.Makes name created ∨
      slot.map (·.created) = some created ∧ ¬ entry.EndsDate name := by
  cases becomes with
  | spared spares => simp [Entry.EndsDate, spares.makes, spares.removes]
  | _ =>
    simp [Entry.EndsDate, Entry.Makes, Entry.Removes, StoredBucket.empty, BucketMemory.purged,
      BucketMemory.removeKeys]

theorem created_empty
    (becomes : Becomes denied name (.call ⟨.createBucket name, .ok ()⟩) slot slot') :
    slot' = some .empty := by
  cases becomes with
  | spared spares => exact absurd ⟨rfl, rfl⟩ (spares.makes none)
  | created => rfl

theorem leaves_empty (becomes : Becomes denied name entry (some .empty) slot')
    (leaves : entry.LeavesEmpty name) : slot' = some .empty := by
  cases becomes with
  | spared => rfl
  | added created => exact absurd (.inl ⟨created, rfl, rfl⟩) leaves.stays
  | arranged key body => exact absurd ⟨rfl, rfl, rfl⟩ (leaves.writes key body)
  | deleted => exact absurd (.inr rfl) leaves.stays
  | purged keys failures =>
    rw [BucketMemory.purged_empty]
  | governed text => exact absurd ⟨rfl, rfl⟩ (leaves.policy text)
  | stored key body => exact absurd ⟨rfl, rfl, rfl⟩ (leaves.writes key body)

end Becomes

/-! ## What stands -/

/-- Some entry made it so, and no later one undid it. Whether an entry undoes it may depend on
those before. -/
def Standing (makes : Entry → Prop) (undoes : List Entry → Entry → Prop) (past : List Entry) :
    Prop :=
  ∃ before entry after, past = before ++ entry :: after ∧ makes entry ∧
    ∀ between later rest, after = between ++ later :: rest →
      ¬ undoes (before ++ entry :: between) later

theorem not_standing_nil (makes : Entry → Prop) (undoes : List Entry → Entry → Prop) :
    ¬ Standing makes undoes [] := by
  rintro ⟨before, entry, after, split, -⟩
  exact List.append_ne_nil_of_right_ne_nil before (List.cons_ne_nil entry after) split.symm

/-- An entry of a history with one more entry is the last one, or it was there before. -/
theorem concat_eq_append_cons {past before after : List Entry} {last entry : Entry} :
    past ++ [last] = before ++ entry :: after ↔
      (after = [] ∧ past = before ∧ last = entry) ∨
        ∃ front, after = front ++ [last] ∧ past = before ++ entry :: front := by
  constructor
  · intro split
    rcases List.eq_nil_or_concat' after with rfl | ⟨front, last', rfl⟩
    · obtain ⟨same, one⟩ := List.append_inj' split rfl
      exact .inl ⟨rfl, same, List.cons.inj one |>.1⟩
    · rw [← List.cons_append, ← List.append_assoc] at split
      obtain ⟨same, one⟩ := List.append_inj' split rfl
      obtain rfl : last = last' := (List.cons.inj one).1
      exact .inr ⟨front, rfl, same⟩
  · rintro (⟨rfl, rfl, rfl⟩ | ⟨front, rfl, rfl⟩)
    · rfl
    · simp

/-- What stands behind one more entry. -/
theorem standing_concat {makes : Entry → Prop} {undoes : List Entry → Entry → Prop}
    {past : List Entry} {entry : Entry} :
    Standing makes undoes (past ++ [entry]) ↔
      makes entry ∨ Standing makes undoes past ∧ ¬ undoes past entry := by
  constructor
  · rintro ⟨before, first, after, split, made, kept⟩
    rcases concat_eq_append_cons.1 split with ⟨rfl, rfl, rfl⟩ | ⟨front, rfl, rfl⟩
    · exact .inl made
    · refine .inr ⟨⟨before, first, front, rfl, made, fun between later rest within => ?_⟩, ?_⟩
      · exact kept between later (rest ++ [entry]) (by simp [within])
      · exact kept front entry [] rfl
  · rintro (made | ⟨⟨before, first, after, rfl, made, kept⟩, stays⟩)
    · refine ⟨past, entry, [], rfl, made, fun between later rest within => ?_⟩
      exact absurd within.symm (List.append_ne_nil_of_right_ne_nil _ (List.cons_ne_nil _ _))
    · refine ⟨before, first, after ++ [entry], by simp, made, fun between later rest within => ?_⟩
      rcases concat_eq_append_cons.1 within with ⟨rfl, rfl, rfl⟩ | ⟨front, rfl, rfl⟩
      · exact stays
      · exact kept between later front rfl

/-! ## Histories -/

/-- What happened to a store that began without buckets, and what became of it. -/
inductive History (size : Option Nat) : List Entry → BucketMemory → Prop
  | start : History size [] (.empty size)
  | step {past : List Entry} {store later : BucketMemory} {entry : Entry}
      (before : History size past store) (happens : Happens store entry later) :
      History size (past ++ [entry]) later
  /-- An operation, whatever its result, leaves its calls behind. -/
  | operation {α : Type} {past : List Entry} {store : BucketMemory}
      (before : History size past store) (program : BucketProgram α) :
      History size
        (past ++ (Event.calls (program.run BucketMemory.answer store).events).map Entry.call)
        (program.run BucketMemory.answer store).state

namespace History

variable {size : Option Nat} {past : List Entry} {store : BucketMemory}

/-- What holds at the start and is kept by every entry holds behind every history. -/
theorem of_steps {I : List Entry → BucketMemory → Prop} (start : I [] (.empty size))
    (step : ∀ past store entry later, History size past store → I past store →
      Happens store entry later → I (past ++ [entry]) later)
    (history : History size past store) : I past store := by
  induction history with
  | start => exact start
  | step before happens ih => exact step _ _ _ _ before ih happens
  | @operation α past store before program ih =>
    induction program generalizing past store with
    | done a | halt reason => simpa [Program.run, Event.calls] using ih
    | note entry program ih' => exact ih' before ih
    | call c k ih' =>
      have called := step _ _ _ _ before ih (.call store c)
      have rest := ih' (BucketMemory.answer c store).1 (before.step (.call store c)) called
      rwa [List.append_assoc] at rest

/-- Keys are denied by the entries that deny them. -/
theorem denied (history : History size past store) : store.denied = deniedKeys past := by
  refine history.of_steps (I := fun past store => store.denied = deniedKeys past) rfl
    fun past store entry later _ ih happens => ?_
  rw [happens.denied, ih]
  cases h : entry.denied? <;> simp [deniedKeys, h]

/-- Something is so behind a history if some entry made it so and none undid it, when this is what
one entry makes of it. -/
theorem standing_iff {V : BucketMemory → Prop} {makes : Entry → Prop}
    {undoes : List Entry → Entry → Prop} (start : ¬ V (.empty size))
    (step : ∀ past store entry later, store.denied = deniedKeys past → Happens store entry later →
      (V later ↔ makes entry ∨ V store ∧ ¬ undoes past entry))
    (history : History size past store) : V store ↔ Standing makes undoes past := by
  refine history.of_steps (I := fun past store => V store ↔ Standing makes undoes past)
    (iff_of_false start (not_standing_nil _ _)) fun past store entry later before ih happens => ?_
  rw [step past store entry later before.denied happens, standing_concat, ih]

/-- A bucket that was created is empty until something is put there. -/
theorem created_empty {name : String} {before after : List Entry}
    (history : History size past store)
    (split : past = before ++ .call ⟨.createBucket name, .ok ()⟩ :: after)
    (leaves : ∀ entry ∈ after, entry.LeavesEmpty name) : store.buckets[name]? = some .empty := by
  refine history.of_steps (I := fun past store => ∀ before after,
    past = before ++ .call ⟨.createBucket name, .ok ()⟩ :: after →
    (∀ entry ∈ after, entry.LeavesEmpty name) → store.buckets[name]? = some .empty)
    (by simp) (fun past store entry later _ ih happens before after split leaves => ?_)
    before after split leaves
  have becomes := happens.becomes name
  rcases concat_eq_append_cons.1 split with ⟨rfl, rfl, rfl⟩ | ⟨front, rfl, there⟩
  · exact becomes.created_empty
  · rw [ih before front there fun e within => leaves e (by simp [within])] at becomes
    exact becomes.leaves_empty (leaves entry (by simp))

end History

/-- What a history decides about its store. -/
structure Decides (past : List Entry) (store : BucketMemory) : Prop where
  /-- Under a key there is what was written there and has not been written anew, deleted or set up
  anew since. -/
  objects : ∀ name key body, store.object? name key = some body ↔
    Standing (Entry.Writes name key body)
      (fun earlier => Entry.EndsObject (deniedKeys earlier) name key) past
  /-- The policy is the last one that was set, unless the bucket was removed or set up since. -/
  policies : ∀ name text, store.policy? name = some text ↔
    Standing (Entry.SetsPolicy name text) (fun _ => Entry.EndsPolicy name) past
  /-- A bucket is there if it was made and has not been removed since. -/
  buckets : ∀ name, store.hasBucket name = true ↔
    Standing (fun entry => ∃ created, entry.Makes name created) (fun _ => Entry.Removes name) past
  /-- It has the date with which it was made last. -/
  dates : ∀ name created, store.buckets[name]?.map (·.created) = some created ↔
    Standing (Entry.Makes name created) (fun _ => Entry.EndsDate name) past
  /-- A bucket that was created is empty until something is put there, whatever was there before. -/
  fresh : ∀ name before after, past = before ++ .call ⟨.createBucket name, .ok ()⟩ :: after →
    (∀ entry ∈ after, entry.LeavesEmpty name) → store.buckets[name]? = some .empty

/-- **Histories.** What a store holds is decided by what happened to it, calls that failed
included: the last write counts. -/
theorem history_decides {size : Option Nat} {past : List Entry} {store : BucketMemory}
    (history : History size past store) : Decides past store := by
  constructor
  case objects =>
    intro name key body
    refine history.standing_iff (V := fun store => store.object? name key = some body)
      (by simp [BucketMemory.object?, BucketMemory.empty])
      fun past store entry later denied happens => ?_
    rw [← denied]
    exact (happens.becomes name).object?_iff key body
  case policies =>
    intro name text
    refine history.standing_iff (V := fun store => store.policy? name = some text)
      (by simp [BucketMemory.policy?, BucketMemory.empty])
      fun past store entry later _ happens => ?_
    exact (happens.becomes name).policy?_iff text
  case buckets =>
    intro name
    refine history.standing_iff (V := fun store => store.hasBucket name = true)
      (by simp [BucketMemory.hasBucket, BucketMemory.empty])
      fun past store entry later _ happens => ?_
    simp only [BucketMemory.hasBucket, Std.ExtTreeMap.contains_eq_isSome_getElem?]
    exact (happens.becomes name).present_iff
  case dates =>
    intro name created
    refine history.standing_iff
      (V := fun store => store.buckets[name]?.map (·.created) = some created)
      (by simp [BucketMemory.empty]) fun past store entry later _ happens => ?_
    exact (happens.becomes name).date_iff created
  case fresh =>
    intro name before after split leaves
    exact history.created_empty split leaves

/-- A store in which a bucket was made, given a policy, removed and created again, and in which it
could then not be emptied of one of two objects. -/
def workshop : BucketMemory :=
  let made := ((makeBucket "scratch").run.run BucketMemory.answer (.empty (some 1))).state
  let governed := (BucketMemory.answer (.putBucketPolicy "scratch" "policy") made).2
  let removed := (BucketMemory.answer (.deleteBucket "scratch") governed).2
  let created := (BucketMemory.answer (.createBucket "scratch") removed).2
  let shelved := (created.addObject "scratch" "b" ⟨#[2]⟩).denyDelete "b"
  let uploaded := ((uploadFile (.ok ⟨#[1]⟩) "scratch" "a" "a.png").run.run
    BucketMemory.answer shelved).state
  ((emptyAndRemoveBucket 3 "scratch").run.run BucketMemory.answer uploaded).state

theorem history_decides_workshop :
    ∃ past, History (some 1) past workshop ∧ deniedKeys past = ["b"] ∧
      workshop.object? "scratch" "a" = none ∧ workshop.object? "scratch" "b" = some ⟨#[2]⟩ ∧
      workshop.policy? "scratch" = none ∧ Decides past workshop := by
  have made := (History.start : History (some 1) _ _).operation (makeBucket "scratch").run
  have created := ((made.step (.call _ (.putBucketPolicy "scratch" "policy"))).step
    (.call _ (.deleteBucket "scratch"))).step (.call _ (.createBucket "scratch"))
  have shelved := (created.step (.addObject _ "scratch" "b" ⟨#[2]⟩ (by cbv))).step
    (.denyDelete _ "b")
  have history := (shelved.operation (uploadFile (.ok ⟨#[1]⟩) "scratch" "a" "a.png").run).operation
    (emptyAndRemoveBucket 3 "scratch").run
  have denied : workshop.denied = ["b"] := by cbv
  have gone : workshop.object? "scratch" "a" = none := by cbv
  have locked : workshop.object? "scratch" "b" = some ⟨#[2]⟩ := by cbv
  have blank : workshop.policy? "scratch" = none := by cbv
  exact ⟨_, history, history.denied.symm.trans denied, gone, locked, blank,
    history_decides history⟩

end CloudOps
