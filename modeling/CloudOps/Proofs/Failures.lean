import CloudOps.Bucket.Script
import CloudOps.Catalog
import CloudOps.Movie.Lookup
import CloudOps.Proofs.Bucket.Walk
import CloudOps.Proofs.Program.FailFast
import Mathlib

/-!
# Why an operation fails

* `Operation`: the operations of the library over the three kinds of stores.
* `Cause`: where a failure may come from. `Cause.Explains` says what the calls show of it.
* `Operation.ends_faithfully`: how the runs of every operation end.
* `operation_fails_faithfully`: every failure has exactly one cause, and no failure of a call is
  swallowed, changed or followed by another call.
-/

namespace CloudOps

open Program

/-! ## Operations -/

/-- The kinds of stores. -/
inductive Store
  | buckets
  | items
  | catalog
  deriving DecidableEq, Repr

/-- The calls that a store answers. -/
def Store.Call : Store → Type
  | buckets => BucketCall
  | items => TableCall
  | catalog => CatalogCall

/-- What a call gives when it succeeds. -/
def Store.Result : (s : Store) → s.Call → Type
  | buckets => BucketCall.Result
  | items => TableCall.Result
  | catalog => CatalogCall.Result

/-- A call and the answer to it. -/
abbrev Store.Exchange (s : Store) := (c : s.Call) × Except Error (s.Result c)

/-- An operation of the library, over a store and with a type of results. -/
inductive Operation : Store → Type → Type
  | listBuckets : Operation .buckets (List BucketSummary)
  | listObjects (pages : Nat) (bucket : String) : Operation .buckets (List String)
  | makeBucket (bucket : String) : Operation .buckets Unit
  | removeBucket (bucket : String) : Operation .buckets Unit
  | emptyBucket (pages : Nat) (bucket : String) : Operation .buckets Nat
  | emptyAndRemoveBucket (pages : Nat) (bucket : String) : Operation .buckets Nat
  | setBucketPolicy (bucket : String) (policy : Policy) : Operation .buckets Unit
  | uploadFile (contents : Except Files.Failure ByteArray) (bucket key path : String) :
    Operation .buckets Unit
  | getMovie (table : String) (year : Int32) (title : String) : Operation .items (Option Movie)
  | listParameterGroups : Operation .catalog (List ParameterGroup)
  | describeClusters : Operation .catalog (List Cluster)

/-- The program of an operation. -/
def Operation.action {s : Store} {α : Type} :
    Operation s α → Action s.Call (fun c => Except Error (s.Result c)) α
  | listBuckets => CloudOps.listBuckets
  | listObjects pages bucket => CloudOps.listObjects pages bucket
  | makeBucket bucket => CloudOps.makeBucket bucket
  | removeBucket bucket => CloudOps.removeBucket bucket
  | emptyBucket pages bucket => CloudOps.emptyBucket pages bucket
  | emptyAndRemoveBucket pages bucket => CloudOps.emptyAndRemoveBucket pages bucket
  | setBucketPolicy bucket policy => CloudOps.setBucketPolicy bucket policy
  | uploadFile contents bucket key path => CloudOps.uploadFile contents bucket key path
  | getMovie table year title => CloudOps.getMovie table year title
  | listParameterGroups => CloudOps.listParameterGroups
  | describeClusters => CloudOps.describeClusters

/-! ## Causes -/

/-- Where a failure comes from. -/
inductive Cause
  /-- A call failed. -/
  | call
  /-- Some objects of a bucket could not be deleted. -/
  | objects
  /-- A file could not be opened. -/
  | file
  /-- An item is no movie. -/
  | item
  deriving DecidableEq, Repr

/-- The calls show that the operation failed so for this cause. -/
def Cause.Explains {s : Store} {α : Type} :
    Cause → Operation s α → List s.Exchange → Error → Prop
  | call, _, calls, e => FailedLast calls e
  | objects, .emptyBucket _ bucket, calls, e =>
    (∀ x ∈ calls, Accepted x) ∧ ∃ failed, e = .partialDelete bucket failed
  | objects, .emptyAndRemoveBucket _ bucket, calls, e =>
    (∀ x ∈ calls, Accepted x) ∧ ∃ failed, e = .partialDelete bucket failed
  | file, .uploadFile contents _ _ _, calls, e =>
    Body.ofFile contents = .error e ∧ calls = [] ∧ ∃ message, e = .io message
  | item, .getMovie table year title, calls, e =>
    (∃ found : Option Item, calls = [⟨.getItem table (Movie.key year title), .ok found⟩]) ∧
      ∃ reason, e = .decode "movie" reason
  | _, _, _, _ => False

namespace Cause

variable {s : Store} {α : Type} {operation : Operation s α} {calls : List s.Exchange} {e : Error}

/-- Behind every other cause, all calls succeeded. -/
theorem Explains.accepted {cause : Cause} (explains : cause.Explains operation calls e)
    (other : cause ≠ call) : ∀ x ∈ calls, Accepted x := by
  cases cause with
  | call => exact absurd rfl other
  | objects =>
    cases operation with
    | emptyBucket pages bucket => exact explains.1
    | emptyAndRemoveBucket pages bucket => exact explains.1
    | _ => exact explains.elim
  | file =>
    cases operation with
    | uploadFile contents bucket key path =>
      rw [explains.2.1]
      exact List.forall_mem_nil _
    | _ => exact explains.elim
  | item =>
    cases operation with
    | getMovie table year title =>
      obtain ⟨⟨found, rfl⟩, -⟩ := explains
      exact List.forall_mem_singleton.2 ⟨found, rfl⟩
    | _ => exact explains.elim

/-- No failure has two causes. -/
theorem Explains.unique {cause other : Cause} (explains : cause.Explains operation calls e)
    (explains' : other.Explains operation calls e) : cause = other := by
  by_cases first : cause = call
  · subst first
    by_contra different
    exact FailedLast.not_accepted explains (explains'.accepted (Ne.symm different))
  by_cases second : other = call
  · subst second
    exact absurd (explains.accepted first) (FailedLast.not_accepted explains')
  -- an operation has at most one cause of its own
  cases operation <;> cases cause <;> cases other <;>
    first | rfl | exact explains.elim | exact explains'.elim | contradiction

end Cause

/-! ## Runs -/

section Buckets

variable {own : Error → Prop}

theorem ObjectLister.step_failsFast (lister : ObjectLister) :
    Action.FailsFast own lister.step := by
  rw [← bind_pure lister.step]
  intro events ending run
  cases done : lister.done with
  | true =>
    rw [run_step_bind_of_done done] at run
    have ends : Action.FailsFast own
        (pure (none, lister) : BucketAction (Option (List String) × ObjectLister)) := .pure _
    exact ends _ _ run
  | false =>
    rcases (run_step_bind_iff done).1 run with ⟨e, rfl, rfl⟩ | ⟨page, rest, rfl, last⟩
    · exact .inl ⟨[], _, rfl, List.forall_mem_nil _⟩
    · obtain ⟨rfl, rfl⟩ := Action.run_pure_iff.1 last
      exact List.forall_mem_singleton.2 ⟨page, rfl⟩

theorem listObjectsFrom_failsFast (pages : Nat) (keys : List String) (lister : ObjectLister) :
    Action.FailsFast own (listObjectsFrom pages keys lister) := by
  induction pages generalizing keys lister with
  | zero =>
    unfold listObjectsFrom
    split
    · exact .pure _
    · exact .halt _
  | succ pages ih =>
    refine .bind lister.step_failsFast fun taken => ?_
    obtain ⟨page?, after⟩ := taken
    cases page? with
    | none => exact .pure _
    | some page => exact ih _ _

theorem deleteBatch_failsFast (bucket : String) (tally : Tally) (keys : List String) :
    Action.FailsFast own (deleteBatch bucket tally keys) := by
  refine .bind (.log _ _) fun _ => .bind (.perform _) fun failures => ?_
  split
  · exact .halt _
  · exact .pure _

theorem deleteBatches_failsFast (bucket : String) (tally : Tally) (batches : List (List String)) :
    Action.FailsFast own (deleteBatches bucket tally batches) := by
  induction batches generalizing tally with
  | nil => exact .pure _
  | cons keys more ih => exact .bind (deleteBatch_failsFast bucket tally keys) ih

theorem emptyFrom_failsFast (pages : Nat) (tally : Tally) (lister : ObjectLister) :
    Action.FailsFast own (emptyFrom pages tally lister) := by
  induction pages generalizing tally lister with
  | zero =>
    unfold emptyFrom
    split
    · exact .pure _
    · exact .halt _
  | succ pages ih =>
    refine .bind lister.step_failsFast fun taken => ?_
    obtain ⟨page?, after⟩ := taken
    cases page? with
    | none => exact .pure _
    | some page => exact .bind (deleteBatches_failsFast _ _ _) fun counted => ih counted after

theorem makeBucket_failsFast (bucket : String) : Action.FailsFast own (makeBucket bucket) :=
  .bind (.perform _) fun _ => .bind (.log _ _) fun _ => .perform _

theorem removeBucket_failsFast (bucket : String) : Action.FailsFast own (removeBucket bucket) :=
  .bind (.perform _) fun _ => .bind (.log _ _) fun _ => .bind (.perform _) fun _ => .log _ _

theorem setBucketPolicy_failsFast (bucket : String) (policy : Policy) :
    Action.FailsFast own (setBucketPolicy bucket policy) :=
  .bind (.log _ _) fun _ => .perform _

/-- Emptying a bucket may fail behind its calls, with the objects that are left. -/
theorem emptyBucket_failsFast (pages : Nat) (bucket : String) :
    Action.FailsFast (fun e => ∃ failed, e = .partialDelete bucket failed)
      (emptyBucket pages bucket) := by
  refine .bind (emptyFrom_failsFast _ _ _) fun tally => .result fun e failed => ?_
  rw [Tally.outcome] at failed
  split at failed
  · cases failed
  · exact ⟨_, (Except.error.inj failed).symm⟩

theorem emptyAndRemoveBucket_failsFast (pages : Nat) (bucket : String) :
    Action.FailsFast (fun e => ∃ failed, e = .partialDelete bucket failed)
      (emptyAndRemoveBucket pages bucket) :=
  .bind (emptyBucket_failsFast pages bucket) fun _ => .bind (.log _ _) fun _ =>
    .bind (removeBucket_failsFast bucket) fun _ => .pure _

/-- Storing what could be opened, whether or not it can be read. -/
theorem uploadFile_failsFast {contents : Except Files.Failure ByteArray} {body : Body}
    (opened : Body.ofFile contents = .ok body) (bucket key path : String) :
    Action.FailsFast own (uploadFile contents bucket key path) := by
  rw [uploadFile_of_body bucket key path opened]
  exact .bind (.perform _) fun _ => .log _ _

end Buckets

/-- A lookup makes one call. It fails with it, or behind it with the defect of an item. -/
theorem getMovie_ends {table : String} {year : Int32} {title : String}
    {events : List (Event TableCall TableCall.Answer)}
    {ending : Ending (Except Error (Option Movie))}
    (run : Run (getMovie table year title).run events ending) :
    ∃ answer : Except Error (Option Item),
      Event.calls events = [⟨.getItem table (Movie.key year title), answer⟩] ∧
      ending = .value (answer.bind Movie.ofFound) := by
  obtain ⟨rest, rfl, asked⟩ := Action.run_log_bind_iff.1 run
  rcases Action.run_perform_bind_iff.1 asked with ⟨e, rfl, rfl⟩ | ⟨found, rest, rfl, last⟩
  · exact ⟨.error e, rfl, rfl⟩
  · obtain ⟨rfl, rfl⟩ := run_done_iff.1 last
    exact ⟨.ok found, rfl, rfl⟩

/-- An item that was found fails only with a defect. -/
theorem Movie.ofFound_error {found : Option Item} {e : Error} (h : Movie.ofFound found = .error e) :
    ∃ reason, e = .decode "movie" reason := by
  match found, h with
  | some (first :: more), h =>
    simp only [ofFound] at h
    cases read : ofItem (first :: more) with
    | error defect =>
      rw [read] at h
      exact ⟨defect.reason, (Except.error.inj h).symm⟩
    | ok movie =>
      rw [read] at h
      cases h

/-- **How operations end.** With a call that failed, or for a cause of their own behind calls that
all succeeded. -/
theorem Operation.ends_faithfully {s : Store} {α : Type} (operation : Operation s α)
    {events : List (Event s.Call fun c => Except Error (s.Result c))}
    {ending : Ending (Except Error α)} (run : Run operation.action.run events ending) :
    Action.FaithfulEnd (fun calls e => ∃ cause : Cause, cause.Explains operation calls e)
      (Event.calls events) ending := by
  -- most operations have no failures of their own
  have plain {calls : List s.Exchange} (ends : Action.FaithfulEnd (fun _ _ => False) calls ending) :
      Action.FaithfulEnd (fun calls e => ∃ cause : Cause, cause.Explains operation calls e)
        calls ending :=
    ends.mono fun _ _ h => h.elim
  cases operation with
  | listBuckets => exact plain (Action.FailsFast.perform BucketCall.listBuckets _ _ run)
  | listObjects pages bucket => exact plain (listObjectsFrom_failsFast _ _ _ _ _ run)
  | makeBucket bucket => exact plain (makeBucket_failsFast bucket _ _ run)
  | removeBucket bucket => exact plain (removeBucket_failsFast bucket _ _ run)
  | emptyBucket pages bucket =>
    exact (emptyBucket_failsFast pages bucket _ _ run).mono fun e accepted left =>
      ⟨.objects, accepted, left⟩
  | emptyAndRemoveBucket pages bucket =>
    exact (emptyAndRemoveBucket_failsFast pages bucket _ _ run).mono fun e accepted left =>
      ⟨.objects, accepted, left⟩
  | setBucketPolicy bucket policy => exact plain (setBucketPolicy_failsFast bucket policy _ _ run)
  | uploadFile contents bucket key path =>
    cases opened : Body.ofFile contents with
    | error e =>
      have run : Run (CloudOps.uploadFile contents bucket key path).run events ending := run
      rw [uploadFile_of_error bucket key path opened] at run
      obtain ⟨rfl, rfl⟩ := run_done_iff.1 run
      exact .inr ⟨List.forall_mem_nil _, .file, opened, rfl, Body.ofFile_error opened⟩
    | ok body => exact plain (uploadFile_failsFast opened bucket key path _ _ run)
  | getMovie table year title =>
    obtain ⟨answer, calls, rfl⟩ : ∃ answer : Except Error (Option Item),
        (Event.calls events : List Store.items.Exchange) =
          [⟨.getItem table (Movie.key year title), answer⟩] ∧
        ending = .value (answer.bind Movie.ofFound) := getMovie_ends run
    rw [calls]
    cases answer with
    | error e => exact .inl ⟨[], _, rfl, List.forall_mem_nil _⟩
    | ok found =>
      have accepted : ∀ x ∈ ([⟨TableCall.getItem table (Movie.key year title), .ok found⟩] :
          List Store.items.Exchange), Accepted x :=
        List.forall_mem_singleton.2 ⟨found, rfl⟩
      show Action.FaithfulEnd _ _ (.value (Movie.ofFound found))
      cases decoded : Movie.ofFound found with
      | error e => exact .inr ⟨accepted, .item, ⟨found, rfl⟩, Movie.ofFound_error decoded⟩
      | ok movie => exact accepted
  | listParameterGroups =>
    exact plain (Action.FailsFast.perform CatalogCall.parameterGroups _ _ run)
  | describeClusters => exact plain (Action.FailsFast.perform CatalogCall.clusters _ _ run)

/-! ## The law -/

/-- What the calls of an operation show of its failures. -/
structure FailureReport {s : Store} {α : Type} (operation : Operation s α)
    (calls : List s.Exchange) (ending : Ending (Except Error α)) : Prop where
  /-- Every failure has exactly one cause. -/
  explained : ∀ e, ending = .value (.error e) → ∃! cause : Cause, cause.Explains operation calls e
  /-- Whenever a call fails, the operation fails with it. -/
  passedOn : ∀ x ∈ calls, ∀ e, x.2 = .error e → ending = .value (.error e)

/-- **Operations fail at once and faithfully**, whatever a store answers. -/
theorem operation_fails_faithfully {s : Store} {α : Type} {operation : Operation s α}
    {events : List (Event s.Call fun c => Except Error (s.Result c))}
    {ending : Ending (Except Error α)} (run : Run operation.action.run events ending) :
    FailureReport operation (Event.calls events) ending := by
  have ends := operation.ends_faithfully run
  constructor
  case explained =>
    rintro e rfl
    obtain ⟨cause, explains⟩ :
        ∃ cause : Cause, cause.Explains operation (Event.calls events) e := by
      rcases ends with failed | ⟨-, own⟩
      · exact ⟨.call, failed⟩
      · exact own
    exact ⟨cause, explains, fun other explains' => explains'.unique explains⟩
  case passedOn => exact fun x hx e failed => ends.of_failed hx failed

/-- A bucket is emptied and deleted, and the wait for its absence fails. -/
def lingeringRun : Trace BucketCall BucketCall.Answer BucketScript (Except Error Nat) :=
  (emptyAndRemoveBucket 1 "photos").run.run BucketScript.answer {
    listBuckets := []
    createBucket := []
    deleteBucket := []
    awaitPresence := []
    awaitAbsence := [.error (.service .transient none (.text "too long"))]
    listObjectsPage := [.ok ⟨["a"], none⟩]
    deleteObjects := []
    putBucketPolicy := []
    putObject := [] }

theorem operation_fails_faithfully_photos :
    Run (Operation.emptyAndRemoveBucket 1 "photos").action.run lingeringRun.events
        lingeringRun.ending ∧
      lingeringRun.ending = .value (.error (.service .transient none (.text "too long"))) ∧
      FailureReport (.emptyAndRemoveBucket 1 "photos") (Event.calls lingeringRun.events)
        lingeringRun.ending := by
  have run : Run (Operation.emptyAndRemoveBucket 1 "photos").action.run lingeringRun.events
      lingeringRun.ending :=
    run_isRun _ _ _
  exact ⟨run, by cbv, operation_fails_faithfully run⟩

end CloudOps
