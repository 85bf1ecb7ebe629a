import CloudOps.Proofs.Bucket.Removal
import CloudOps.Proofs.Failures
import CloudOps.Proofs.Memory.Interruption
import CloudOps.Proofs.Program.Handled

/-!
# Operations on different buckets

An operation on one bucket neither sees nor touches another.

* `Operation.bucket?`, `Operation.pages?`: the bucket that an operation is about, and the pages that
  it may ask for. `Operation.emits`: all its calls are about that bucket.
* `BucketMemory.Alike`: two stores are the same as far as one bucket goes. `answer_alike` says it of
  one call, `run_alike` of a program; `answer_elsewhere` and `run_elsewhere` say that the other
  buckets stay as they are.
* `Operation.ends`: an operation that may ask for the pages of its bucket ends. Nothing that is
  arranged to fail keeps it from that (`run_faultless`).
* `operations_isolated`: all of it together. Operations on different buckets commute.
-/

namespace CloudOps

open Program

/-! ## Calls about one bucket -/

/-- A call about the bucket, or an entry in the log. -/
def AboutBucket (name : String) : Event BucketCall BucketCall.Answer → Prop
  | .call c _ => c.bucket? = some name
  | .note _ => True

theorem WalkEvent.aboutBucket {name : String} {event : Event BucketCall BucketCall.Answer}
    (h : WalkEvent name event) : AboutBucket name event := by
  cases event with
  | note entry => trivial
  | call c answer =>
    rcases h with ⟨_, same⟩ | ⟨_, same⟩ <;> cases same <;> rfl

theorem listObjectsFrom_emits (pages : Nat) (keys : List String) (lister : ObjectLister) :
    (listObjectsFrom pages keys lister).Emits (AboutBucket lister.bucket) := by
  induction pages generalizing keys lister with
  | zero =>
    unfold listObjectsFrom
    split
    · exact .pure _
    · exact .halt _
  | succ pages ih =>
    exact ObjectLister.step_bind_emits (fun _ => rfl) (.pure _) fun page =>
      ih (keys ++ page.keys) (lister.advance page)

theorem removeBucket_emits (name : String) : (removeBucket name).Emits (AboutBucket name) :=
  .bind (.perform fun _ => rfl) fun _ => .bind (.log trivial) fun _ =>
    .bind (.perform fun _ => rfl) fun _ => .log trivial

namespace Operation

variable {α β : Type}

/-- The bucket that an operation is about. -/
def bucket? : Operation .buckets α → Option String
  | listBuckets => none
  | listObjects _ bucket => some bucket
  | makeBucket bucket => some bucket
  | removeBucket bucket => some bucket
  | emptyBucket _ bucket => some bucket
  | emptyAndRemoveBucket _ bucket => some bucket
  | setBucketPolicy bucket _ => some bucket
  | uploadFile _ bucket _ _ => some bucket

/-- The number of pages that an operation may ask for, if it walks through its bucket. -/
def pages? : Operation .buckets α → Option Nat
  | listObjects pages _ => some pages
  | emptyBucket pages _ => some pages
  | emptyAndRemoveBucket pages _ => some pages
  | _ => none

/-- Every call of an operation is about its bucket. -/
theorem emits {operation : Operation .buckets α} {name : String}
    (about : operation.bucket? = some name) :
    Action.Emits (AboutBucket name) (operation.action : BucketAction α) := by
  cases operation with
  | listBuckets => cases about
  | listObjects pages bucket =>
    cases about
    exact listObjectsFrom_emits pages [] (.start name)
  | makeBucket bucket =>
    cases about
    exact .bind (.perform fun _ => rfl) fun _ => .bind (.log trivial) fun _ =>
      .perform fun _ => rfl
  | removeBucket bucket =>
    cases about
    exact removeBucket_emits name
  | emptyBucket pages bucket =>
    cases about
    exact (emptyBucket_emits pages name).mono fun _ => WalkEvent.aboutBucket
  | emptyAndRemoveBucket pages bucket =>
    cases about
    exact .bind ((emptyBucket_emits pages name).mono fun _ => WalkEvent.aboutBucket) fun _ =>
      .bind (.log trivial) fun _ => .bind (removeBucket_emits name) fun _ => .pure _
  | setBucketPolicy bucket policy =>
    cases about
    exact .bind (.log trivial) fun _ => .perform fun _ => rfl
  | uploadFile contents bucket key path =>
    cases about
    show Action.Emits _ (CloudOps.uploadFile contents name key path)
    cases opened : Body.ofFile contents with
    | error e =>
      rw [uploadFile_of_error name key path opened]
      intro events ending run
      rw [(run_done_iff.1 run).1]
      exact List.forall_mem_nil _
    | ok body =>
      rw [uploadFile_of_body name key path opened]
      exact .bind (.perform fun _ => rfl) fun _ => .log trivial

/-- An operation that does not walk through its bucket always ends. -/
theorem returns_of_no_pages {operation : Operation .buckets α} (still : operation.pages? = none) :
    (operation.action : BucketAction α).run.Returns := by
  have performs (c : BucketCall) : (BucketCall.perform c).run.Returns :=
    returns_call fun _ => returns_done _
  have logs (level : Level) (text : String) :
      (Action.log level text : BucketAction Unit).run.Returns :=
    returns_note (returns_done _)
  cases operation with
  | listBuckets => exact performs _
  | makeBucket bucket =>
    exact .action_bind (performs _) fun _ => .action_bind (logs _ _) fun _ => performs _
  | removeBucket bucket =>
    exact .action_bind (performs _) fun _ => .action_bind (logs _ _) fun _ =>
      .action_bind (performs _) fun _ => logs _ _
  | setBucketPolicy bucket policy => exact .action_bind (logs _ _) fun _ => performs _
  | uploadFile contents bucket key path =>
    show (CloudOps.uploadFile contents bucket key path).run.Returns
    cases opened : Body.ofFile contents with
    | error e =>
      rw [uploadFile_of_error bucket key path opened]
      exact returns_done _
    | ok body =>
      rw [uploadFile_of_body bucket key path opened]
      exact .action_bind (performs _) fun _ => logs _ _
  | _ => cases still

end Operation

namespace BucketMemory

variable {α β : Type} {store other : BucketMemory} {name : String}

/-! ## Stores that are alike -/

/-- Two stores hold the same under one name, and the same is arranged about them. What is recorded
of their calls and held under other names does not matter. -/
structure Alike (name : String) (store other : BucketMemory) : Prop where
  bucket : other.buckets[name]? = store.buckets[name]?
  pageSize : other.pageSize = store.pageSize
  denied : ∀ key, key ∈ other.denied ↔ key ∈ store.denied
  faults : ∀ method, other.record.fault? method = store.record.fault? method
  limit : other.failListingFrom = store.failListingFrom

theorem Alike.of_arrangement (same : other.arrangement = store.arrangement)
    (bucket : other.buckets[name]? = store.buckets[name]?) : Alike name store other where
  bucket := bucket
  pageSize := pageSize_of_arrangement same
  denied _ := by rw [denied_of_arrangement same]
  faults := fault?_of_arrangement same
  limit := limit_of_arrangement same

/-- What is arranged about two stores stays the same. -/
theorem Alike.later (alike : Alike name store other) {store' other' : BucketMemory}
    (same : store'.arrangement = store.arrangement) (same' : other'.arrangement = other.arrangement)
    (bucket : other'.buckets[name]? = store'.buckets[name]?) : Alike name store' other' where
  bucket := bucket
  pageSize := by rw [pageSize_of_arrangement same', alike.pageSize, pageSize_of_arrangement same]
  denied key := by rw [denied_of_arrangement same', alike.denied, denied_of_arrangement same]
  faults method := by
    rw [fault?_of_arrangement same', alike.faults, fault?_of_arrangement same]
  limit := by rw [limit_of_arrangement same', alike.limit, limit_of_arrangement same]

/-- Where every page is served, a call about the bucket does the same to both stores. -/
theorem perform_alike {c : BucketCall} (alike : Alike name store other)
    (unlimited : store.failListingFrom = none) (about : c.bucket? = some name) :
    (other.perform c).1 = (store.perform c).1 ∧
      (other.perform c).2.buckets[name]? = (store.perform c).2.buckets[name]? := by
  have held := alike.bucket
  have unlimited' : other.failListingFrom = none := alike.limit.trans unlimited
  cases found : store.buckets[name]? with
  | none =>
    rw [found] at held
    cases c with
    | putObject _ _ body =>
      cases about
      cases body <;> simp [perform, found, held]
    | _ =>
      cases about <;>
        simp [perform, hasBucket, addBucket, Std.ExtTreeMap.contains_eq_isSome_getElem?, found,
          held, unlimited, unlimited']
  | some bucket =>
    rw [found] at held
    have denied (keys : List String) :
        keys.filter (· ∈ other.denied) = keys.filter (· ∈ store.denied) :=
      List.filter_congr fun key _ => decide_eq_decide.2 (alike.denied key)
    have free (keys : List String) :
        keys.filter (· ∉ other.denied) = keys.filter (· ∉ store.denied) :=
      List.filter_congr fun key _ => decide_eq_decide.2 (not_congr (alike.denied key))
    cases c with
    | deleteBucket =>
      cases about
      by_cases bare : bucket.keys.isEmpty <;> simp [perform, found, held, bare]
    | deleteObjects =>
      cases about
      simp only [perform, found, held, change_of_found found, change_of_found held, denied, free,
        Std.ExtTreeMap.getElem?_insert_self, and_self]
    | putObject _ _ body =>
      cases about
      cases body <;> simp [perform, found, held, addObject, change_of_found found,
        change_of_found held]
    | _ =>
      cases about <;>
        simp [perform, hasBucket, Std.ExtTreeMap.contains_eq_isSome_getElem?, found, held,
          unlimited, unlimited', alike.pageSize, change_of_found found, change_of_found held]

/-- **One call.** It gets the same answer, and leaves the stores alike. -/
theorem answer_alike {c : BucketCall} (alike : Alike name store other)
    (unlimited : store.failListingFrom = none) (about : c.bucket? = some name) :
    (answer c other).1 = (answer c store).1 ∧ Alike name (answer c store).2 (answer c other).2 := by
  have later := alike.later (answer_arrangement c store) (answer_arrangement c other)
  have faults : other.faultOf? c = store.faultOf? c := by rw [faultOf?, alike.faults, ← faultOf?]
  cases fault : store.faultOf? c with
  | none =>
    obtain ⟨given, kept⟩ := perform_alike alike unlimited about
    rw [answer_of_faultless fault, answer_of_faultless (faults.trans fault)] at later ⊢
    exact ⟨given, later kept⟩
  | some found =>
    rw [answer_of_fault fault, answer_of_fault (faults.trans fault)] at later ⊢
    exact ⟨rfl, later alike.bucket⟩

/-! ## Programs about one bucket -/

section Programs

variable {program : BucketProgram α}
  (about : ∀ event ∈ (program.run answer store).events, AboutBucket name event)

include about

/-- **A program about one bucket** runs alike under stores that are alike. -/
theorem run_alike (alike : Alike name store other) (unlimited : store.failListingFrom = none) :
    (program.run answer other).events = (program.run answer store).events ∧
      (program.run answer other).ending = (program.run answer store).ending ∧
      Alike name (program.run answer store).state (program.run answer other).state := by
  have step (c : BucketCall) (s t : BucketMemory)
      (related : s.failListingFrom = none ∧ Alike name s t)
      (own : AboutBucket name (.call c (answer c s).1)) :
      (answer c t).1 = (answer c s).1 ∧
        (answer c s).2.failListingFrom = none ∧ Alike name (answer c s).2 (answer c t).2 := by
    obtain ⟨given, alike'⟩ := answer_alike related.2 related.1 own
    exact ⟨given, (limit_of_arrangement (answer_arrangement c s)).trans related.1, alike'⟩
  obtain ⟨events, ending, -, alike'⟩ := program.run_related step ⟨unlimited, alike⟩ about
  exact ⟨events, ending, alike'⟩

/-- It leaves every other bucket as it is. -/
theorem run_elsewhere {name' : String} (different : name' ≠ name) :
    (program.run answer store).state.buckets[name']? = store.buckets[name']? := by
  have step (c : BucketCall) (s : BucketMemory) (kept : s.buckets[name']? = store.buckets[name']?)
      (own : AboutBucket name (.call c (answer c s).1)) :
      (answer c s).2.buckets[name']? = store.buckets[name']? := by
    have other : c.bucket? ≠ some name' := fun same =>
      different (Option.some.inj (same.symm.trans own))
    exact (answer_elsewhere other).trans kept
  exact program.run_keeps step rfl about

end Programs

/-! ## Operations that end -/

theorem withRecord_quiet (unlimited : store.failListingFrom = none)
    (roomy : store.pageSize ≠ some 0) :
    (store.withRecord .empty).Quiet :=
  ⟨fun _ => rfl, unlimited, roomy⟩

/-- A program whose calls all succeed runs as if nothing were arranged to fail. -/
theorem run_faultless {program : BucketProgram α}
    (accepted : ∀ x ∈ Event.calls (program.run answer store).events, Accepted x) :
    (program.run answer (store.withRecord .empty)).ending = (program.run answer store).ending := by
  have step (c : BucketCall) (s t : BucketMemory)
      (related : ∃ record : CallRecord BucketMethod, record.faults = [] ∧ t = s.withRecord record)
      (own : ∀ x, Event.call c (answer c s).1 = .call x.1 x.2 → Accepted x) :
      (answer c t).1 = (answer c s).1 ∧
        ∃ record : CallRecord BucketMethod, record.faults = [] ∧
          (answer c t).2 = (answer c s).2.withRecord record := by
    obtain ⟨record, faultless, rfl⟩ := related
    have quiet : (s.withRecord record).faultOf? c = none :=
      faultOf?_of_faultless (by simp [withRecord, CallRecord.fault?, faultless])
    cases fault : s.faultOf? c with
    | none =>
      rw [answer_of_faultless fault, answer_of_faultless quiet, perform_withRecord]
      exact ⟨rfl, _, (faults_recordBehind _ c).trans faultless, rfl⟩
    | some found =>
      rw [answer_of_fault fault] at own
      exact absurd (own ⟨c, _⟩ rfl) (not_accepted_error c _)
  have events : ∀ event ∈ (program.run answer store).events,
      ∀ x : BucketExchange, event = .call x.1 x.2 → Accepted x :=
    fun _ emitted x same => accepted x (Event.mem_calls.2 (same ▸ emitted))
  exact (program.run_related step ⟨.empty, rfl, rfl⟩ events).2.1

/-- Where there is no bucket, the first request of a walk is refused. -/
theorem step_of_missing {lister : ObjectLister}
    {f : Option (List String) × ObjectLister → BucketAction β} (quiet : store.Quiet)
    (fresh : lister.done = false) (missing : store.buckets[lister.bucket]? = none) :
    Yields (lister.step >>= f).run store (.error (noSuchBucket lister.bucket)) store.buckets 1 := by
  refine .list_error fresh ?_ ?_ <;> rw [answer_of_faultless (quiet.faultOf? _)] <;>
    simp [perform, quiet.unlimited, missing]

end BucketMemory

namespace Operation

open BucketMemory

variable {α : Type} {operation : Operation .buckets α} {store : BucketMemory} {name : String}

/-- The operation may ask for all pages of the bucket, if it walks through it. -/
def Reaches (operation : Operation .buckets α) (store : BucketMemory) (name : String) : Prop :=
  ∀ pages, operation.pages? = some pages →
    pageCount store.pageSize (store.objectKeys name).length ≤ pages

/-- Where nothing fails, an operation ends that may ask for the pages of its bucket. -/
theorem ends_of_quiet (quiet : store.Quiet) (about : operation.bucket? = some name)
    (reaches : operation.Reaches store name) : ∃ result, store.Ends operation.action result := by
  cases walks : operation.pages? with
  | none => exact returns_of_no_pages walks _ _ (run_isRun _ _ _)
  | some pages =>
    have enough := reaches pages walks
    cases found : store.buckets[name]? with
    | some bucket =>
      rw [objectKeys, found, StoredBucket.length_keys] at enough
      cases operation with
      | listObjects pages bucket =>
        cases about
        cases walks
        exact ⟨_, (listObjects_yields quiet.serves found enough).ending⟩
      | emptyBucket pages bucket =>
        cases about
        cases walks
        exact ⟨_, (emptyBucket_yields quiet.serves found enough).ending⟩
      | emptyAndRemoveBucket pages bucket =>
        cases about
        cases walks
        obtain ⟨_, _, removed⟩ := emptyAndRemoveBucket_requests quiet found enough
        exact ⟨_, removed.ending⟩
      | _ => cases walks
    | none =>
      obtain ⟨more, rfl⟩ : ∃ more, pages = more + 1 :=
        Nat.exists_eq_succ_of_ne_zero (Nat.ne_of_gt ((pageCount_pos _ _).trans_le enough))
      cases operation with
      | listObjects pages bucket =>
        cases about
        cases walks
        exact ⟨_, (step_of_missing quiet rfl found).ending⟩
      | emptyBucket pages bucket =>
        cases about
        cases walks
        exact ⟨_, (step_of_missing quiet rfl found).bind_error.ending⟩
      | emptyAndRemoveBucket pages bucket =>
        cases about
        cases walks
        exact ⟨_, (step_of_missing quiet rfl found).bind_error.bind_error.ending⟩
      | _ => cases walks

/-- **Operations end.** A call that is arranged to fail ends the operation as well. -/
theorem ends (roomy : store.pageSize ≠ some 0) (unlimited : store.failListingFrom = none)
    (about : operation.bucket? = some name) (reaches : operation.Reaches store name) :
    ∃ result, store.Ends operation.action result := by
  have run := run_isRun answer (operation.action : BucketAction α).run store
  cases ended : ((operation.action : BucketAction α).run.run answer store).ending with
  | value result => exact ⟨result, ended⟩
  | halted reason =>
    -- a walk that is stopped was refused nothing, so that nothing fails on its way
    rw [ended] at run
    have accepted := operation.ends_faithfully run
    obtain ⟨result, ends⟩ := ends_of_quiet (withRecord_quiet unlimited roomy) about reaches
    cases ends.symm.trans ((run_faultless accepted).trans ended)

end Operation

/-! ## The law -/

namespace Operation

/-- The run of an operation under a store. -/
def under {α : Type} (operation : Operation .buckets α) (store : BucketMemory) :
    Trace BucketCall BucketCall.Answer BucketMemory (Except Error α) :=
  (operation.action : BucketAction α).run.run BucketMemory.answer store

variable {α β : Type} {operation : Operation .buckets α} {store : BucketMemory} {name : String}

theorem under_about (about : operation.bucket? = some name) :
    ∀ event ∈ (operation.under store).events, AboutBucket name event :=
  emits about _ _ (run_isRun _ _ _)

/-- An operation on one bucket stays with it. -/
structure Confined (operation : Operation .buckets α) (name : String) (store : BucketMemory) :
    Prop where
  /-- It ends, as soon as it may ask for the pages that there are. -/
  ends : operation.Reaches store name → ∃ result, (operation.under store).ending = .value result
  /-- All its calls are about the bucket, -/
  own : ∀ x ∈ Event.calls (operation.under store).events, x.1.bucket? = some name
  /-- and the store records them, but for one whose body breaks off. -/
  recorded : (operation.under store).state.record.log =
    store.record.log ++ BucketMemory.recordedMethods (Event.calls (operation.under store).events)
  /-- What it does, its result and what it makes of the bucket depend on the bucket and on what is
  arranged about the store. -/
  same : ∀ other, BucketMemory.Alike name store other →
    (operation.under other).events = (operation.under store).events ∧
      (operation.under other).ending = (operation.under store).ending ∧
      (operation.under other).state.buckets[name]? = (operation.under store).state.buckets[name]?
  /-- Every other bucket is left as it is. -/
  elsewhere : ∀ name', name' ≠ name →
    (operation.under store).state.buckets[name']? = store.buckets[name']?

/-- Two operations may be carried out in either order. -/
structure Commute (first : Operation .buckets α) (second : Operation .buckets β)
    (store : BucketMemory) : Prop where
  /-- The first one does the same behind the second one as before it. -/
  firstSame : (first.under (second.under store).state).events = (first.under store).events ∧
    (first.under (second.under store).state).ending = (first.under store).ending
  /-- So does the second one behind the first one. -/
  secondSame : (second.under (first.under store).state).events = (second.under store).events ∧
    (second.under (first.under store).state).ending = (second.under store).ending
  /-- Both orders leave the same buckets. -/
  buckets : (second.under (first.under store).state).state.buckets =
    (first.under (second.under store).state).state.buckets

variable (roomy : store.pageSize ≠ some 0) (unlimited : store.failListingFrom = none)

include roomy unlimited

theorem confined (about : operation.bucket? = some name) : operation.Confined name store where
  ends := operation.ends roomy unlimited about
  own _ called := under_about about _ (Event.mem_calls.1 called)
  recorded := BucketMemory.run_log _ store
  same other alike := by
    obtain ⟨events, ending, alike'⟩ :=
      BucketMemory.run_alike (under_about about) alike unlimited
    exact ⟨events, ending, alike'.bucket⟩
  elsewhere name' different := BucketMemory.run_elsewhere (under_about about) different

/-- Behind an operation on another bucket, a store is the same as far as this bucket goes. -/
theorem alike_under {name' : String} (about : operation.bucket? = some name')
    (different : name ≠ name') : BucketMemory.Alike name store (operation.under store).state :=
  .of_arrangement (BucketMemory.run_arrangement _ store)
    ((operation.confined roomy unlimited about).elsewhere name different)

/-- What two operations in a row leave of the bucket that the first one is about. -/
theorem commute_at {first : Operation .buckets α} {second : Operation .buckets β} {name' : String}
    (own : first.bucket? = some name) (other : second.bucket? = some name')
    (different : name ≠ name') :
    (second.under (first.under store).state).state.buckets[name]? =
      (first.under (second.under store).state).state.buckets[name]? := by
  have alike := second.alike_under roomy unlimited other different
  calc (second.under (first.under store).state).state.buckets[name]?
      = (first.under store).state.buckets[name]? :=
        BucketMemory.run_elsewhere (under_about other) different
    _ = (first.under (second.under store).state).state.buckets[name]? :=
        ((first.confined roomy unlimited own).same _ alike).2.2.symm

theorem commute {first : Operation .buckets α} {second : Operation .buckets β} {name' : String}
    (own : first.bucket? = some name) (other : second.bucket? = some name')
    (different : name ≠ name') : first.Commute second store := by
  have same := (first.confined roomy unlimited own).same _
    (second.alike_under roomy unlimited other different)
  have same' := (second.confined roomy unlimited other).same _
    (first.alike_under roomy unlimited own different.symm)
  refine ⟨⟨same.1, same.2.1⟩, ⟨same'.1, same'.2.1⟩, Std.ExtTreeMap.ext_getElem? fun key => ?_⟩
  by_cases first_one : key = name
  · subst first_one
    exact commute_at roomy unlimited own other different
  by_cases second_one : key = name'
  · subst second_one
    exact (commute_at roomy unlimited other own different.symm).symm
  · -- neither operation touches a third bucket
    have first_spares (s : BucketMemory) := s.run_elsewhere (under_about own) first_one
    have second_spares (s : BucketMemory) := s.run_elsewhere (under_about other) second_one
    exact ((second_spares _).trans (first_spares _)).trans
      ((first_spares _).trans (second_spares _)).symm

end Operation

namespace BucketMemory

/-- The buckets of a store do not depend on each other. -/
structure Isolated (store : BucketMemory) : Prop where
  /-- An operation on one bucket stays with it. -/
  confined : ∀ {α : Type} (operation : Operation .buckets α) (name : String),
    operation.bucket? = some name → operation.Confined name store
  /-- Operations on different buckets may be carried out in either order. -/
  commute : ∀ {α β : Type} (first : Operation .buckets α) (second : Operation .buckets β)
    (name name' : String), first.bucket? = some name → second.bucket? = some name' →
    name ≠ name' → first.Commute second store

/-- **Operations on different buckets.** They do not see each other, whatever else is arranged to
fail, if every page is served that is asked for. -/
theorem operations_isolated {store : BucketMemory} (roomy : store.pageSize ≠ some 0)
    (unlimited : store.failListingFrom = none) : store.Isolated where
  confined _ _ about := Operation.confined roomy unlimited about
  commute _ _ _ _ own other different := Operation.commute roomy unlimited own other different

/-- Two buckets, one key on a page, a key that cannot be deleted, and uploads that fail. -/
def crowdedStore : BucketMemory :=
  ({ albumStore with pageSize := some 1 }.addBucket "scratch" none).failOn .putObject
    ⟨.transient, some "SlowDown", "Please reduce your request rate."⟩

theorem operations_isolated_crowded :
    crowdedStore.pageSize = some 1 ∧ crowdedStore.failListingFrom = none ∧
      crowdedStore.denied = ["b"] ∧ (crowdedStore.record.fault? .putObject).isSome ∧
      crowdedStore.objectKeys "photos" = ["a", "b", "c", "d"] ∧
      crowdedStore.hasBucket "scratch" = true ∧ crowdedStore.Isolated :=
  ⟨rfl, rfl, rfl, rfl, by cbv, by cbv, operations_isolated (by decide) rfl⟩

end BucketMemory

end CloudOps
