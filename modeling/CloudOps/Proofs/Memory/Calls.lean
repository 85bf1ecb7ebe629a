import CloudOps.Memory.Buckets
import CloudOps.Proofs.Bucket.Walk

/-!
# Calls to a store in memory

* `BucketMemory.arrangement`: what is arranged about a store. No call changes it
  (`answer_arrangement`), and so no action does (`run_arrangement`).
* `BucketMemory.Serves`: listings and deletions are not arranged to fail; `BucketMemory.Quiet`:
  nothing is.
* `BucketMemory.Unasked`: a change to a store that hardly any call notices.
* `BucketMemory.withRecord`: the record of the calls decides nothing but their faults.
  `BucketMemory.run_log`: what a run adds to it.
* `BucketMemory.Yields`: what an action gives under a store, the buckets it leaves, and how many
  listing requests it makes. `Yields.perform`, `Yields.log`, `Yields.bind`, `Yields.list` and
  `Yields.delete` are its rules.
-/

namespace CloudOps

open Program

/-- How many of the calls are listing requests. -/
def listingCount (calls : List BucketExchange) : Nat :=
  calls.countP fun x => x.1.method == .listObjectsPage

@[simp] theorem listingCount_append (before after : List BucketExchange) :
    listingCount (before ++ after) = listingCount before + listingCount after :=
  List.countP_append

namespace BucketMemory

/-! ## What is arranged -/

/-- The size of the pages, the faults, the keys that cannot be deleted, and the first page that is
not served. -/
def arrangement (store : BucketMemory) :
    Option Nat × List (BucketMethod × Fault) × List String × Option Nat :=
  (store.pageSize, store.record.faults, store.denied, store.failListingFrom)

@[simp] theorem change_arrangement (store : BucketMemory) (name : String)
    (f : StoredBucket → StoredBucket) : (store.change name f).arrangement = store.arrangement := by
  unfold change
  split <;> rfl

theorem perform_arrangement (store : BucketMemory) (c : BucketCall) :
    (store.perform c).2.arrangement = store.arrangement := by
  cases c <;> simp only [perform] <;> (repeat' split) <;>
    first | rfl | exact change_arrangement ..

@[simp] theorem faults_recordBehind (store : BucketMemory) (c : BucketCall) :
    (store.recordBehind c).faults = store.record.faults := by
  unfold recordBehind
  split <;> rfl

/-- No call changes what is arranged. -/
theorem answer_arrangement (c : BucketCall) (store : BucketMemory) :
    (answer c store).2.arrangement = store.arrangement := by
  have entered : { store with record := store.recordBehind c }.arrangement = store.arrangement := by
    simp [arrangement]
  simp only [answer]
  split
  · exact entered
  · exact (perform_arrangement _ c).trans entered

/-- No program changes what is arranged. -/
theorem run_arrangement {α : Type} (program : BucketProgram α) (store : BucketMemory) :
    (program.run answer store).state.arrangement = store.arrangement :=
  run_invariant (I := fun s => s.arrangement = store.arrangement)
    (fun c s h => (answer_arrangement c s).trans h) program rfl

section Arrangement

variable {store later : BucketMemory} (same : later.arrangement = store.arrangement)

include same

theorem pageSize_of_arrangement : later.pageSize = store.pageSize := congrArg (·.1) same

theorem faults_of_arrangement : later.record.faults = store.record.faults := congrArg (·.2.1) same

theorem fault?_of_arrangement (method : BucketMethod) :
    later.record.fault? method = store.record.fault? method := by
  rw [CallRecord.fault?, faults_of_arrangement same, ← CallRecord.fault?]

theorem denied_of_arrangement : later.denied = store.denied := congrArg (·.2.2.1) same

theorem limit_of_arrangement : later.failListingFrom = store.failListingFrom :=
  congrArg (·.2.2.2) same

end Arrangement

/-- Listings and deletions are not arranged to fail, and a page has room for a key. -/
structure Serves (store : BucketMemory) : Prop where
  lists : store.record.fault? .listObjectsPage = none
  deletes : store.record.fault? .deleteObjects = none
  unlimited : store.failListingFrom = none
  roomy : store.pageSize ≠ some 0

theorem Serves.of_arrangement {store later : BucketMemory} (serves : store.Serves)
    (same : later.arrangement = store.arrangement) : later.Serves where
  lists := (fault?_of_arrangement same _).trans serves.lists
  deletes := (fault?_of_arrangement same _).trans serves.deletes
  unlimited := (limit_of_arrangement same).trans serves.unlimited
  roomy := pageSize_of_arrangement same ▸ serves.roomy

/-- Nothing is arranged to fail, and a page has room for a key. -/
structure Quiet (store : BucketMemory) : Prop where
  faultless : ∀ method, store.record.fault? method = none
  unlimited : store.failListingFrom = none
  roomy : store.pageSize ≠ some 0

theorem Quiet.serves {store : BucketMemory} (quiet : store.Quiet) : store.Serves :=
  ⟨quiet.faultless _, quiet.faultless _, quiet.unlimited, quiet.roomy⟩

theorem Quiet.of_arrangement {store later : BucketMemory} (quiet : store.Quiet)
    (same : later.arrangement = store.arrangement) : later.Quiet where
  faultless method := (fault?_of_arrangement same method).trans (quiet.faultless method)
  unlimited := (limit_of_arrangement same).trans quiet.unlimited
  roomy := pageSize_of_arrangement same ▸ quiet.roomy

/-! ## What calls do not ask for -/

/-- A change to a store that no call notices, other than a listing request. -/
structure Unasked (f : BucketMemory → BucketMemory) : Prop where
  buckets : ∀ store, (f store).buckets = store.buckets
  denied : ∀ store, (f store).denied = store.denied
  update : ∀ store buckets, f { store with buckets } = { f store with buckets }

section Unasked

variable {f : BucketMemory → BucketMemory} (unasked : Unasked f)

include unasked

theorem Unasked.change (store : BucketMemory) (name : String) (g : StoredBucket → StoredBucket) :
    (f store).change name g = f (store.change name g) := by
  rw [BucketMemory.change, BucketMemory.change, unasked.buckets]
  cases store.buckets[name]? with
  | none => rfl
  | some bucket => exact (unasked.update ..).symm

/-- A call does the same, and the change stays. -/
theorem perform_unasked {c : BucketCall} (other : c.method ≠ .listObjectsPage)
    (store : BucketMemory) :
    (f store).perform c = ((store.perform c).1, f (store.perform c).2) := by
  have held (name : String) : (f store).hasBucket name = store.hasBucket name := by
    rw [hasBucket, hasBucket, unasked.buckets]
  cases c with
  | listObjectsPage => exact absurd rfl other
  | listBuckets | awaitPresence | awaitAbsence => simp only [perform, unasked.buckets, held]
  | createBucket name =>
    have added : (f store).addBucket name none = f (store.addBucket name none) := by
      rw [addBucket, unasked.buckets]
      exact (unasked.update ..).symm
    simp only [perform, held, added]
    split <;> rfl
  | deleteBucket name =>
    simp only [perform, unasked.buckets, ← unasked.update]
    cases store.buckets[name]? with
    | none => rfl
    | some bucket => cases bare : bucket.keys.isEmpty <;> simp only [bare] <;> rfl
  | deleteObjects name _ | putBucketPolicy name _ =>
    simp only [perform, unasked.buckets, unasked.denied, unasked.change]
    cases store.buckets[name]? <;> rfl
  | putObject name _ body =>
    cases body with
    | broken => rfl
    | whole =>
      simp only [perform, addObject, unasked.buckets, unasked.change]
      cases store.buckets[name]? <;> rfl

end Unasked

/-! ## What is recorded -/

/-- The store with another record of its calls. -/
def withRecord (store : BucketMemory) (record : CallRecord BucketMethod) : BucketMemory :=
  { store with record }

@[simp] theorem withRecord_buckets (store : BucketMemory) (record : CallRecord BucketMethod) :
    (store.withRecord record).buckets = store.buckets := rfl

/-- The record decides nothing of what a call does, and is left as it is. -/
theorem perform_withRecord (store : BucketMemory) (record : CallRecord BucketMethod)
    (c : BucketCall) :
    (store.withRecord record).perform c =
      ((store.perform c).1, (store.perform c).2.withRecord record) := by
  have unasked : Unasked (·.withRecord record) := ⟨fun _ => rfl, fun _ => rfl, fun _ _ => rfl⟩
  cases c with
  | listObjectsPage name token =>
    by_cases limited : store.failListingFrom.any (· ≤ store.pagesServed)
    · simp only [perform, if_pos limited]
      exact if_pos limited
    · simp only [perform, if_neg limited]
      refine (if_neg limited).trans ?_
      cases found : store.buckets[name]? <;> simp only [withRecord_buckets, found] <;> rfl
  | _ => exact perform_unasked unasked (by rintro ⟨⟩) store

/-- A call that ends with no fault is carried out. -/
theorem answer_of_faultless {store : BucketMemory} {c : BucketCall}
    (faultless : store.faultOf? c = none) :
    answer c store =
      ((store.perform c).1, (store.perform c).2.withRecord (store.recordBehind c)) := by
  simp only [answer, faultless]
  exact perform_withRecord store _ c

/-- A call that ends with a fault does nothing else. -/
theorem answer_of_fault {store : BucketMemory} {c : BucketCall} {fault : Fault}
    (found : store.faultOf? c = some fault) :
    answer c store = (.error fault.error, store.withRecord (store.recordBehind c)) := by
  simp only [answer, found]
  rfl

/-- What a call adds to the record does not depend on its answer. -/
theorem answer_record (c : BucketCall) (store : BucketMemory) :
    (answer c store).2.record = store.recordBehind c := by
  cases fault : store.faultOf? c with
  | none => rw [answer_of_faultless fault, withRecord]
  | some _ => rw [answer_of_fault fault, withRecord]

/-- A call adds its method to the record, unless its body breaks off. -/
theorem log_recordBehind (store : BucketMemory) (c : BucketCall) :
    (store.recordBehind c).log = store.record.log ++ if c.isReadable then [c.method] else [] := by
  unfold recordBehind
  split
  · rfl
  · exact (List.append_nil _).symm

/-- The calls that a record shows. -/
def recordedMethods (calls : List BucketExchange) : List BucketMethod :=
  (calls.filter (·.1.isReadable)).map (·.1.method)

theorem recordedMethods_cons (x : BucketExchange) (calls : List BucketExchange) :
    recordedMethods (x :: calls) =
      (if x.1.isReadable then [x.1.method] else []) ++ recordedMethods calls := by
  unfold recordedMethods
  cases readable : x.1.isReadable <;> simp [readable]

/-- A run adds the methods of its calls, in their order. -/
theorem run_log {α : Type} (program : BucketProgram α) (store : BucketMemory) :
    (program.run answer store).state.record.log =
      store.record.log ++ recordedMethods (Event.calls (program.run answer store).events) := by
  induction program generalizing store with
  | done | halt => simp [Program.run, Event.calls, recordedMethods]
  | note entry program ih => exact ih store
  | call c k ih =>
    have rest := ih (answer c store).1 (answer c store).2
    rw [answer_record, log_recordBehind, List.append_assoc] at rest
    refine rest.trans ?_
    exact congrArg _ (recordedMethods_cons ⟨c, (answer c store).1⟩ _).symm

/-- Where its method has no fault, a call ends with none. -/
theorem faultOf?_of_faultless {store : BucketMemory} {c : BucketCall}
    (faultless : store.record.fault? c.method = none) : store.faultOf? c = none := by
  unfold faultOf?
  split
  · exact faultless
  · rfl

theorem Quiet.faultOf? {store : BucketMemory} (quiet : store.Quiet) (c : BucketCall) :
    store.faultOf? c = none :=
  faultOf?_of_faultless (quiet.faultless _)

theorem faultOf?_of_arrangement {store later : BucketMemory}
    (same : later.arrangement = store.arrangement) (c : BucketCall) :
    later.faultOf? c = store.faultOf? c := by
  rw [faultOf?, fault?_of_arrangement same, ← faultOf?]

/-! ## One bucket -/

theorem change_of_found {store : BucketMemory} {name : String} {bucket : StoredBucket}
    (found : store.buckets[name]? = some bucket) (f : StoredBucket → StoredBucket) :
    (store.change name f).buckets = store.buckets.insert name (f bucket) := by
  rw [change, found]

/-- A call changes the bucket that it is about, if any. -/
theorem perform_elsewhere {store : BucketMemory} {c : BucketCall} {name : String}
    (other : c.bucket? ≠ some name) :
    (store.perform c).2.buckets[name]? = store.buckets[name]? := by
  have other {name' : String} (about : c.bucket? = some name') : compare name' name ≠ .eq :=
    fun same => other (Std.LawfulEqCmp.compare_eq_iff_eq.1 same ▸ about)
  cases c <;> simp only [perform, addObject, addBucket] <;> (repeat' split) <;>
    simp_all [change_of_found, Std.ExtTreeMap.getElem?_insert, Std.ExtTreeMap.getElem?_erase,
      BucketCall.bucket?]

/-- So does its answer. -/
theorem answer_elsewhere {store : BucketMemory} {c : BucketCall} {name : String}
    (other : c.bucket? ≠ some name) : (answer c store).2.buckets[name]? = store.buckets[name]? := by
  cases fault : store.faultOf? c with
  | none =>
    rw [answer_of_faultless fault, withRecord_buckets]
    exact perform_elsewhere other
  | some _ => rw [answer_of_fault fault, withRecord_buckets]

/-! ## One request -/

section OneRequest

variable {store : BucketMemory} {name : String} {bucket : StoredBucket}

/-- A listing request gives a page of the keys and changes no bucket. -/
theorem answer_listObjectsPage (serves : store.Serves) (found : store.buckets[name]? = some bucket)
    (token : Option String) :
    (answer (.listObjectsPage name token) store).1 =
        .ok (page store.pageSize bucket.keys token) ∧
      (answer (.listObjectsPage name token) store).2.buckets = store.buckets := by
  have quiet : store.faultOf? (.listObjectsPage name token) = none := serves.lists
  rw [answer_of_faultless quiet]
  simp [perform, serves.unlimited, found]

/-- A delete request reports the keys that cannot be deleted and removes the others. -/
theorem answer_deleteObjects (serves : store.Serves) (found : store.buckets[name]? = some bucket)
    (keys : List String) :
    (answer (.deleteObjects name keys) store).1 =
        .ok ((keys.filter (· ∈ store.denied)).map deniedFailure) ∧
      (answer (.deleteObjects name keys) store).2.buckets =
        store.buckets.insert name (removeKeys (keys.filter (· ∉ store.denied)) bucket) := by
  have quiet : store.faultOf? (.deleteObjects name keys) = none := serves.deletes
  rw [answer_of_faultless quiet]
  simp [perform, found, change]

end OneRequest

/-! ## Actions -/

/-- Under the store, the action gives this result, leaves these buckets, and makes so many listing
requests. -/
structure Yields {α : Type} (action : BucketProgram (Except Error α)) (store : BucketMemory)
    (result : Except Error α) (buckets : Std.ExtTreeMap String StoredBucket) (requests : Nat) :
    Prop where
  ending : (action.run answer store).ending = .value result
  buckets : (action.run answer store).state.buckets = buckets
  requests : listingCount (Event.calls (action.run answer store).events) = requests

namespace Yields

variable {α β : Type} {store : BucketMemory} {result : Except Error β}
  {buckets buckets' : Std.ExtTreeMap String StoredBucket} {m n : Nat}

theorem done (result : Except Error β) (store : BucketMemory) :
    Yields (.done result) store result store.buckets 0 :=
  ⟨rfl, rfl, rfl⟩

theorem note {action : BucketProgram (Except Error β)} {entry : LogEntry}
    (rest : Yields action store result buckets n) :
    Yields (.note entry action) store result buckets n :=
  ⟨rest.ending, rest.buckets, rest.requests⟩

theorem call {c : BucketCall} {k : c.Answer → BucketProgram (Except Error β)} {given : c.Answer}
    (answered : (answer c store).1 = given)
    (rest : Yields (k given) (answer c store).2 result buckets n) :
    Yields (.call c k) store result buckets (n + listingCount [⟨c, given⟩]) := by
  subst answered
  refine ⟨rest.ending, rest.buckets, ?_⟩
  rw [← rest.requests, Nat.add_comm, ← listingCount_append]
  rfl

/-- An action of one call. -/
theorem perform {c : BucketCall} {given : c.Result}
    (answered : (answer c store).1 = .ok given) (kept : (answer c store).2.buckets = buckets) :
    Yields (BucketCall.perform c).run store (.ok given) buckets
      (listingCount [⟨c, .ok given⟩]) := by
  rw [← Nat.zero_add (listingCount _)]
  exact .call answered (kept ▸ .done _ _)

/-- An entry in the log. -/
theorem log (level : Level) (text : String) (store : BucketMemory) :
    Yields (Action.log level text : BucketAction Unit).run store (.ok ()) store.buckets 0 :=
  .note (.done _ store)

/-- Two actions in a row, the second one under the very store that the first one leaves. -/
theorem bind_after {action : BucketAction α} {f : α → BucketAction β} {a : α}
    (first : Yields action.run store (.ok a) buckets m)
    (rest : Yields (f a).run (action.run.run answer store).state result buckets' n) :
    Yields (action >>= f).run store result buckets' (n + m) := by
  let trace := action.run.run answer store
  have split : trace = ⟨trace.events, .value (.ok a), trace.state⟩ := by rw [← first.ending]
  have whole : (action >>= f).run.run answer store = _ := Action.run_bind_ok split rfl
  refine ⟨?_, ?_, ?_⟩
  · rw [whole]
    exact rest.ending
  · rw [whole]
    exact rest.buckets
  · rw [whole, Event.calls_append, listingCount_append, first.requests, rest.requests, Nat.add_comm]

/-- Two actions in a row. -/
theorem bind {action : BucketAction α} {f : α → BucketAction β} {a : α}
    (first : Yields action.run store (.ok a) buckets m)
    (rest : ∀ later : BucketMemory, later.arrangement = store.arrangement →
      later.buckets = buckets → Yields (f a).run later result buckets' n) :
    Yields (action >>= f).run store result buckets' (n + m) :=
  first.bind_after (rest _ (run_arrangement action.run store) first.buckets)

/-- An action that fails is the last one. -/
theorem bind_error {action : BucketAction α} {f : α → BucketAction β} {e : Error}
    (failed : Yields action.run store (.error e) buckets m) :
    Yields (action >>= f).run store (.error e) buckets m := by
  let trace := action.run.run answer store
  have split : trace = ⟨trace.events, .value (.error e), trace.state⟩ := by rw [← failed.ending]
  have whole : (action >>= f).run.run answer store = _ := Action.run_bind_error split
  exact ⟨by rw [whole], by rw [whole, ← failed.buckets], by rw [whole, ← failed.requests]⟩

variable {bucket : StoredBucket}

/-- A listing request, and what follows it. -/
theorem list {lister : ObjectLister} {f : Option (List String) × ObjectLister → BucketAction β}
    (fresh : lister.done = false) (serves : store.Serves)
    (found : store.buckets[lister.bucket]? = some bucket)
    {p : ObjectPage} (served : page store.pageSize bucket.keys lister.token = p)
    (rest : ∀ later : BucketMemory, later.arrangement = store.arrangement →
      later.buckets = store.buckets →
      Yields (f (some p.keys, lister.advance p)).run later result buckets n) :
    Yields (lister.step >>= f).run store result buckets (n + 1) := by
  obtain ⟨given, kept⟩ := answer_listObjectsPage serves found lister.token
  rw [served] at given
  rw [ObjectLister.step_bind fresh]
  exact .call given (rest _ (answer_arrangement _ store) kept)

/-- A listing request that is refused is the last one. -/
theorem list_error {lister : ObjectLister}
    {f : Option (List String) × ObjectLister → BucketAction β} {e : Error}
    (fresh : lister.done = false)
    (refused : (answer (.listObjectsPage lister.bucket lister.token) store).1 = .error e)
    (kept : (answer (.listObjectsPage lister.bucket lister.token) store).2.buckets =
      store.buckets) :
    Yields (lister.step >>= f).run store (.error e) store.buckets 1 := by
  rw [ObjectLister.step_bind fresh, ← kept]
  exact .call refused (.done _ _)

/-- A delete request, and what follows it. -/
theorem delete {name : String} {keys : List String} {tally : Tally} {f : Tally → BucketAction β}
    (serves : store.Serves) (found : store.buckets[name]? = some bucket)
    (rest : ∀ later : BucketMemory, later.arrangement = store.arrangement →
      later.buckets =
        store.buckets.insert name (removeKeys (keys.filter (· ∉ store.denied)) bucket) →
      Yields (f (tally.add keys.length ((keys.filter (· ∈ store.denied)).map deniedFailure))).run
        later result buckets n) :
    Yields (deleteBatch name tally keys >>= f).run store result buckets n := by
  obtain ⟨given, kept⟩ := answer_deleteObjects serves found keys
  have few : ¬ keys.length < ((keys.filter (· ∈ store.denied)).map deniedFailure).length := by
    simpa using List.length_filter_le _ keys
  rw [deleteBatch_bind]
  refine .note (.call given ?_)
  show Yields (if keys.length < List.length (List.map _ _) then _ else _) _ _ _ _
  rw [if_neg few]
  exact rest _ (answer_arrangement _ store) kept

end Yields

end BucketMemory

end CloudOps
