import CloudOps.Proofs.Memory.Calls

/-!
# Calls that fail

A call that fails leaves a store in memory as it was.

* `BucketMemory.Refuses`, `BucketMemory.Fails`: why a call fails, and with which failure.
  `perform_error_iff` and `answer_error_iff` say that there are no other reasons.
* `BucketMemory.marked`: the store behind a call that changed nothing. `answer_of_idle`: so it is
  behind every call that fails, and behind every call that only asks.
* `calls_fail_atomically`: all that a call does to a store, whether or not it fails. A call whose
  body breaks off is not written down (`broken_upload_unrecorded`).
* `answerAll_log`, `answerAll_successes`: several calls in a row. The record shows those whose
  bodies could be read, and those that failed can be left out.
-/

namespace CloudOps

open Program

namespace BucketMethod

/-- Whether a call of the method is about a bucket that has to be there. -/
def needsBucket : BucketMethod → Bool
  | deleteBucket | listObjectsPage | deleteObjects | putBucketPolicy | putObject => true
  | listBuckets | createBucket | awaitPresence | awaitAbsence => false

/-- Whether a call of the method only asks: the listings and the waits. -/
def asks : BucketMethod → Bool
  | listBuckets | awaitPresence | awaitAbsence | listObjectsPage => true
  | createBucket | deleteBucket | deleteObjects | putBucketPolicy | putObject => false

end BucketMethod

namespace BucketMemory

/-! ## Why a call fails -/

/-- The next page that is asked for is not served. -/
def Stopped (store : BucketMemory) : Prop :=
  ∃ limit, store.failListingFrom = some limit ∧ limit ≤ store.pagesServed

/-- Why a call fails that ends with no fault. -/
inductive Refuses (store : BucketMemory) : BucketCall → Error → Prop
  /-- The body breaks off. -/
  | broken (name key : String) (reason : Message) :
      Refuses store (.putObject name key (.broken reason)) (.io reason)
  /-- The bucket is there and should not be. -/
  | owned {name : String} (there : store.hasBucket name = true) :
      Refuses store (.createBucket name) alreadyOwned
  /-- The bucket is not there and should be. A request for a page finds out only if its page is
  served, and a call with a body only if it can be read. -/
  | missing {c : BucketCall} {name : String} (about : c.bucket? = some name)
      (needs : c.method.needsBucket = true) (absent : store.buckets[name]? = none)
      (readable : c.isReadable = true) (served : c.method = .listObjectsPage → ¬ store.Stopped) :
      Refuses store c (noSuchBucket name)
  /-- The bucket has objects. -/
  | filled {name : String} {bucket : StoredBucket} (found : store.buckets[name]? = some bucket)
      (objects : bucket.keys ≠ []) : Refuses store (.deleteBucket name) bucketNotEmpty
  /-- The page is not served. -/
  | stopped (name : String) (token : Option String) (stopped : store.Stopped) :
      Refuses store (.listObjectsPage name token) connectionReset
  /-- The bucket does not appear. -/
  | unseen {name : String} (absent : store.hasBucket name = false) :
      Refuses store (.awaitPresence name) waitExceeded
  /-- The bucket does not disappear. -/
  | lasting {name : String} (there : store.hasBucket name = true) :
      Refuses store (.awaitAbsence name) waitExceeded

/-- Why a call fails. A fault comes before everything else but a body that breaks off. -/
inductive Fails (store : BucketMemory) : BucketCall → Error → Prop
  | faulty {c : BucketCall} {fault : Fault} (set : store.faultOf? c = some fault) :
      Fails store c fault.error
  | refused {c : BucketCall} {e : Error} (faultless : store.faultOf? c = none)
      (refuses : store.Refuses c e) : Fails store c e

variable {store : BucketMemory}

theorem stopped_iff : store.Stopped ↔ store.failListingFrom.any (· ≤ store.pagesServed) = true := by
  cases limit : store.failListingFrom <;> simp [Stopped, limit]

/-- A call that is refused fails. -/
theorem perform_of_refuses {c : BucketCall} {e : Error} (refuses : store.Refuses c e) :
    (store.perform c).1 = .error e := by
  cases refuses with
  | owned there | lasting there => simp only [perform, there, if_true]
  | broken => rfl
  | missing about needs absent readable served =>
    cases c with
    | listObjectsPage =>
      cases about
      have served := mt stopped_iff.2 (served rfl)
      simp only [perform, if_neg served, absent]
    | deleteBucket | deleteObjects | putBucketPolicy =>
      cases about
      simp only [perform, absent]
    | putObject _ _ body =>
      cases about
      cases body with
      | broken => cases readable
      | whole => simp only [perform, absent]
    | _ => cases needs
  | filled found objects => simp only [perform, found, List.isEmpty_iff, if_neg objects]
  | stopped name token stopped => simp only [perform, stopped_iff.1 stopped, if_true]
  | unseen absent => simp only [perform, absent, Bool.false_eq_true, if_false]

/-- Whatever fails is refused. -/
theorem refuses_of_perform {c : BucketCall} {e : Error} (failed : (store.perform c).1 = .error e) :
    store.Refuses c e := by
  cases c with
  | listBuckets => cases failed
  | createBucket name | awaitAbsence name =>
    by_cases there : store.hasBucket name = true
    · simp only [perform, if_pos there] at failed
      cases failed
      constructor
      exact there
    · simp only [perform, if_neg there] at failed
      cases failed
  | awaitPresence name =>
    by_cases there : store.hasBucket name = true
    · simp only [perform, if_pos there] at failed
      cases failed
    · simp only [perform, if_neg there] at failed
      cases failed
      exact .unseen (Bool.eq_false_iff.2 there)
  | deleteBucket name =>
    cases found : store.buckets[name]? with
    | none =>
      simp only [perform, found] at failed
      cases failed
      exact .missing rfl rfl found rfl (by rintro ⟨⟩)
    | some bucket =>
      by_cases bare : bucket.keys.isEmpty = true
      · simp only [perform, found, if_pos bare] at failed
        cases failed
      · simp only [perform, found, if_neg bare] at failed
        cases failed
        exact .filled found (mt List.isEmpty_iff.2 bare)
  | listObjectsPage name token =>
    by_cases stopped : store.Stopped
    · simp only [perform, if_pos (stopped_iff.1 stopped)] at failed
      cases failed
      exact .stopped name token stopped
    · simp only [perform, if_neg (mt stopped_iff.2 stopped)] at failed
      cases found : store.buckets[name]? with
      | none =>
        simp only [found] at failed
        cases failed
        exact .missing rfl rfl found rfl fun _ => stopped
      | some bucket =>
        simp only [found] at failed
        cases failed
  | deleteObjects name _ | putBucketPolicy name _ =>
    cases found : store.buckets[name]? with
    | none =>
      simp only [perform, found] at failed
      cases failed
      exact .missing rfl rfl found rfl (by rintro ⟨⟩)
    | some bucket =>
      simp only [perform, found] at failed
      cases failed
  | putObject name key body =>
    cases body with
    | broken reason =>
      cases failed
      exact .broken name key reason
    | whole bytes =>
      cases found : store.buckets[name]? with
      | none =>
        simp only [perform, found] at failed
        cases failed
        exact .missing rfl rfl found rfl (by rintro ⟨⟩)
      | some bucket =>
        simp only [perform, found] at failed
        cases failed

theorem perform_error_iff {c : BucketCall} {e : Error} :
    (store.perform c).1 = .error e ↔ store.Refuses c e :=
  ⟨refuses_of_perform, perform_of_refuses⟩

/-- A call fails for the known reasons and no other. -/
theorem answer_error_iff {c : BucketCall} {e : Error} :
    (answer c store).1 = .error e ↔ store.Fails c e := by
  cases found : store.faultOf? c with
  | none =>
    rw [answer_of_faultless found, perform_error_iff]
    constructor
    · exact .refused found
    · rintro (set | ⟨-, refuses⟩)
      · cases found.symm.trans set
      · exact refuses
  | some fault =>
    rw [answer_of_fault found]
    constructor
    · rintro ⟨⟩
      exact .faulty found
    · rintro (set | ⟨faultless, -⟩)
      · cases found.symm.trans set
        rfl
      · cases found.symm.trans faultless

/-! ## What a call leaves -/

/-- The store behind a call that changed nothing: its method is written down, and a request for a
page is counted unless its method has a fault. -/
def marked (store : BucketMemory) (method : BucketMethod) : BucketMemory :=
  { store with
    record := store.record.enter method
    pagesServed := store.pagesServed +
      if method = .listObjectsPage ∧ store.record.fault? method = none then 1 else 0 }

/-- The call changes nothing: it fails, or it only asks. -/
def Idle (c : BucketCall) (given : c.Answer) : Prop :=
  (∃ e, given = .error e) ∨ c.method.asks = true

/-- A call that is carried out and fails, or only asks, changes no more than the number of pages. -/
theorem perform_of_idle {c : BucketCall} (idle : Idle c (store.perform c).1) :
    (store.perform c).2 =
      { store with
        pagesServed := store.pagesServed + if c.method = .listObjectsPage then 1 else 0 } := by
  have refused (changes : c.method.asks = false) : ∃ e, store.Refuses c e := by
    rcases idle with ⟨e, failed⟩ | asks
    · exact ⟨e, refuses_of_perform failed⟩
    · cases changes.symm.trans asks
  cases c with
  | listBuckets | awaitPresence | awaitAbsence => rfl
  | listObjectsPage name token =>
    show _ = { store with pagesServed := store.pagesServed + 1 }
    simp only [perform]
    (repeat' split) <;> rfl
  | createBucket name =>
    obtain ⟨_, refuses⟩ := refused rfl
    cases refuses with
    | owned there => exact congrArg Prod.snd (if_pos there)
    | missing _ needs => cases needs
  | deleteBucket name =>
    obtain ⟨_, refuses⟩ := refused rfl
    cases refuses with
    | missing about _ absent =>
      cases about
      simp only [perform, absent]
      rfl
    | filled found objects =>
      simp only [perform, found, List.isEmpty_iff, if_neg objects]
      rfl
  | deleteObjects | putBucketPolicy =>
    obtain ⟨_, refuses⟩ := refused rfl
    cases refuses with
    | missing about _ absent =>
      cases about
      simp only [perform, absent]
      rfl
  | putObject _ _ body =>
    obtain ⟨_, refuses⟩ := refused rfl
    cases refuses with
    | broken => rfl
    | missing about _ absent readable =>
      cases about
      cases body with
      | broken => cases readable
      | whole =>
        simp only [perform, absent]
        rfl

/-- **A call that fails, or only asks,** leaves the store as it was, but that it is written down
unless its body breaks off. -/
theorem answer_of_idle {c : BucketCall} (idle : Idle c (answer c store).1) :
    (answer c store).2 = if c.isReadable then store.marked c.method else store := by
  by_cases readable : c.isReadable = true
  · have faults : store.faultOf? c = store.record.fault? c.method := if_pos readable
    have entered : store.recordBehind c = store.record.enter c.method := if_pos readable
    rw [if_pos readable]
    cases found : store.record.fault? c.method with
    | none =>
      rw [answer_of_faultless (faults.trans found)] at idle ⊢
      rw [perform_of_idle idle]
      simp [withRecord, marked, found, entered]
    | some fault =>
      rw [answer_of_fault (faults.trans found)]
      simp [withRecord, marked, found, entered]
  · obtain ⟨_, _, _, rfl⟩ := BucketCall.eq_of_not_readable readable
    rfl

/-! ## The law -/

/-- What a call does to a store. -/
structure CallReport (c : BucketCall) (store : BucketMemory) : Prop where
  /-- It fails for one of the known reasons, with the failure that belongs to it, and only then. -/
  fails : ∀ e, (answer c store).1 = .error e ↔ store.Fails c e
  /-- A call that fails is written down and, if it is a request for a page, counted. Nothing else is
  changed: no bucket, no key that cannot be deleted, no fault. -/
  atomic : c.isReadable → ∀ e, (answer c store).1 = .error e →
    (answer c store).2 = store.marked c.method
  /-- A call whose body breaks off leaves no trace. -/
  traceless : ¬ c.isReadable → (answer c store).2 = store
  /-- A call is written down, once and behind all others, exactly if its body can be read. -/
  recorded : (answer c store).2.record.log = store.record.log ++ [c.method] ↔ c.isReadable
  /-- Every call that succeeds is written down, and leaves the faults as they are. -/
  succeeded : ∀ given, (answer c store).1 = .ok given →
    (answer c store).2.record = store.record.enter c.method
  /-- Whatever becomes of a call, what is arranged about the store stays. -/
  arranged : (answer c store).2.arrangement = store.arrangement
  /-- It changes the bucket that it is about, if any, -/
  elsewhere : ∀ name, c.bucket? ≠ some name →
    (answer c store).2.buckets[name]? = store.buckets[name]?
  /-- and if it only asks, no bucket at all. -/
  asks : c.method.asks → (answer c store).2.buckets = store.buckets

/-- **Calls fail atomically**, whatever a store holds and whatever is arranged to fail. Only a call
whose body breaks off is not written down. -/
theorem calls_fail_atomically (c : BucketCall) (store : BucketMemory) : CallReport c store where
  fails e := answer_error_iff
  atomic readable e failed := by
    rw [answer_of_idle (.inl ⟨e, failed⟩), if_pos readable]
  traceless broken := by
    obtain ⟨_, _, _, rfl⟩ := BucketCall.eq_of_not_readable broken
    rfl
  recorded := by
    rw [answer_record, log_recordBehind, List.append_cancel_left_eq]
    split <;> simp_all
  succeeded given ok := by
    rw [answer_record]
    by_cases readable : c.isReadable = true
    · exact if_pos readable
    · obtain ⟨_, _, _, rfl⟩ := BucketCall.eq_of_not_readable readable
      cases ok
  arranged := answer_arrangement c store
  elsewhere name other := answer_elsewhere other
  asks asks := by
    rw [answer_of_idle (.inr asks)]
    split <;> rfl

/-- A folder is uploaded where a file was meant: the call fails and is not written down. -/
theorem broken_upload_unrecorded :
    Event.calls ((uploadFile (.error .isFolder) "photos" "cover" "folder").run.run answer
        ((empty none).addBucket "photos" none)).events =
      [⟨.putObject "photos" "cover" (.broken (.diagnostic none)),
        .error (.io (.diagnostic none))⟩] ∧
      ((uploadFile (.error .isFolder) "photos" "cover" "folder").run.run answer
        ((empty none).addBucket "photos" none)).ending =
          .value (.error (.io (.diagnostic none))) ∧
      ¬ ∀ (c : BucketCall) (store : BucketMemory) (e : Error), (answer c store).1 = .error e →
        (answer c store).2.record.log = store.record.log ++ [c.method] := by
  refine ⟨rfl, rfl, fun recorded => ?_⟩
  have log : ([] : List BucketMethod) = [] ++ [.putObject] :=
    recorded (.putObject "photos" "cover" (.broken (.diagnostic none)))
      ((empty none).addBucket "photos" none) _ rfl
  cases log

/-! ## Several calls -/

/-- The store behind several calls. -/
def answerAll : List BucketCall → BucketMemory → BucketMemory
  | [], store => store
  | c :: calls, store => answerAll calls (answer c store).2

/-- Those of several calls that succeed. -/
def successes : List BucketCall → BucketMemory → List BucketCall
  | [], _ => []
  | c :: calls, store =>
    match (answer c store).1 with
    | .ok _ => c :: successes calls (answer c store).2
    | .error _ => successes calls (answer c store).2

/-- The record shows the calls in their order, but for those whose bodies could not be read. -/
theorem answerAll_log (calls : List BucketCall) (store : BucketMemory) :
    (answerAll calls store).record.log =
      store.record.log ++ (calls.filter BucketCall.isReadable).map BucketCall.method := by
  induction calls generalizing store with
  | nil => exact (List.append_nil _).symm
  | cons c calls ih =>
    rw [answerAll, ih, answer_record, log_recordBehind, List.append_assoc, List.filter_cons]
    split <;> simp

/-- Two stores hold the same buckets, and the same is arranged about them. -/
structure Agree (store other : BucketMemory) : Prop where
  buckets : other.buckets = store.buckets
  arrangement : other.arrangement = store.arrangement

/-- They differ in what is recorded and counted at most. -/
theorem Agree.eq {other : BucketMemory} (agree : Agree store other) :
    other = { store with record := other.record, pagesServed := other.pagesServed } := by
  obtain ⟨held, arranged⟩ := agree
  cases other
  simp_all [BucketMemory.arrangement]

/-- What is recorded and counted decides nothing of what a call makes of the buckets. -/
theorem answer_agree {other : BucketMemory} (agree : Agree store other) (c : BucketCall) :
    Agree (answer c store).2 (answer c other).2 where
  arrangement := by rw [answer_arrangement, agree.arrangement, answer_arrangement]
  buckets := by
    have faults : other.faultOf? c = store.faultOf? c := faultOf?_of_arrangement agree.arrangement c
    cases found : store.faultOf? c with
    | some fault =>
      rw [answer_of_fault found, answer_of_fault (faults.trans found)]
      exact agree.buckets
    | none =>
      rw [answer_of_faultless found, answer_of_faultless (faults.trans found),
        withRecord_buckets, withRecord_buckets]
      by_cases listing : c.method = .listObjectsPage
      · have asks : c.method.asks = true := by rw [listing]; rfl
        rw [perform_of_idle (.inr asks), perform_of_idle (.inr asks)]
        exact agree.buckets
      · -- only a request for a page looks at what is recorded and counted
        let copy (s : BucketMemory) : BucketMemory :=
          { s with record := other.record, pagesServed := other.pagesServed }
        have unasked : Unasked copy := ⟨fun _ => rfl, fun _ => rfl, fun _ _ => rfl⟩
        have same : other = copy store := agree.eq
        rw [same, perform_unasked unasked listing]

theorem answerAll_agree {other : BucketMemory} (agree : Agree store other)
    (calls : List BucketCall) : Agree (answerAll calls store) (answerAll calls other) := by
  induction calls generalizing store other with
  | nil => exact agree
  | cons c calls ih => exact ih (answer_agree agree c)

/-- **Calls that fail can be left out.** Those that succeed make of the buckets what all of them
make of them. -/
theorem answerAll_successes (calls : List BucketCall) (store : BucketMemory) :
    Agree (answerAll calls store) (answerAll (successes calls store) store) := by
  induction calls generalizing store with
  | nil => exact ⟨rfl, rfl⟩
  | cons c calls ih =>
    rw [successes]
    split
    · exact ih (answer c store).2
    · next e failed =>
      have spared : Agree (answer c store).2 store := by
        rw [answer_of_idle (.inl ⟨e, failed⟩)]
        split <;> exact ⟨rfl, rfl⟩
      have again := answerAll_agree spared (successes calls (answer c store).2)
      have rest := ih (answer c store).2
      exact ⟨again.buckets.trans rest.buckets, again.arrangement.trans rest.arrangement⟩

end BucketMemory

end CloudOps
