import CloudOps.Proofs.Failures
import CloudOps.Proofs.Service.Exchanges
import CloudOps.Service.Script

/-!
# How failed requests reach the caller

* `Undertaking`: an operation of the library, or what else a caller may ask for. `Undertaking.over`
  is the same over the service behind its store.
* `ServiceExchange.BrokenOff`: the last exchange failed, and none before it.
* `Relays`: whenever an exchange fails, the operation ends with it and fails as it did. The rules
  for the parts of an operation say that it is so for the whole; `Undertaking.relays` says that it
  is so for every undertaking.
* `Undertaking.uploadFile_over`: an upload sends its body even if it breaks off.
* `failed_requests_reach_caller`: what the caller gets when a request fails.
-/

namespace CloudOps

open Program

/-! ## Undertakings -/

/-- What a store needs of its service: how a client is set up, or how many pages of a listing it
may ask for. -/
def Store.Service : Store → Type
  | buckets => BucketService
  | items => Unit
  | catalog => Nat

/-- A call of a store carried out by requests. -/
def Store.carryOut :
    (s : Store) → s.Service → (c : s.Call) → ServiceProgram (Except Error (s.Result c))
  | buckets, service, c => BucketService.carryOut service c
  | items, _, c => TableService.carryOut c
  | catalog, pages, c => DatabaseService.carryOut pages c

/-- What a service may be asked for: an operation of the library, the next page of a lister, or a
single call of the store. -/
inductive Undertaking : Store → Type → Type 1
  | whole {s : Store} {α : Type} (operation : Operation s α) : Undertaking s α
  | page (lister : ObjectLister) : Undertaking .buckets (Option (List String) × ObjectLister)
  | call {s : Store} (c : s.Call) : Undertaking s (s.Result c)

/-- The program of an undertaking over its store. -/
def Undertaking.action {s : Store} {α : Type} :
    Undertaking s α → Action s.Call (fun c => Except Error (s.Result c)) α
  | whole operation => operation.action
  | page lister => lister.step
  | call c => Action.perform c

/-- An undertaking carried out by requests. -/
def Undertaking.over {s : Store} {α : Type} (undertaking : Undertaking s α)
    (service : s.Service) : ServiceAction α :=
  ExceptT.mk (undertaking.action.run.handle (s.carryOut service))

/-! ## Failed exchanges -/

namespace ServiceExchange

/-- The failure of an exchange as one of the library, if it failed. -/
def failure? : ServiceExchange → Option Error
  | ⟨.request _, (answer : Except RequestFailure _)⟩ =>
    match answer with
    | .ok _ => none
    | .error failure => some failure.error
  | ⟨.wait _ _ _, (answer : Except WaitFailure Unit)⟩ =>
    match answer with
    | .ok _ => none
    | .error failure => some failure.error

/-- The exchange is a request that failed so. -/
def Failed (x : ServiceExchange) (failure : RequestFailure) : Prop :=
  ∃ request, x = ⟨.request request, .error failure⟩

theorem Failed.failure? {x : ServiceExchange} {failure : RequestFailure}
    (failed : x.Failed failure) : x.failure? = some failure.error := by
  obtain ⟨_, rfl⟩ := failed
  rfl

/-- No exchange failed. -/
def Smooth (calls : List ServiceExchange) : Prop := ∀ x ∈ calls, x.failure? = none

/-- The last exchange failed so, and no exchange before it failed. -/
def BrokenOff (calls : List ServiceExchange) (e : Error) : Prop :=
  ∃ before x, calls = before ++ [x] ∧ Smooth before ∧ x.failure? = some e

variable {calls before : List ServiceExchange} {e : Error}

theorem smooth_nil : Smooth [] := List.forall_mem_nil _

theorem Smooth.append (first : Smooth before) (rest : Smooth calls) : Smooth (before ++ calls) :=
  List.forall_mem_append.2 ⟨first, rest⟩

theorem BrokenOff.append (first : Smooth before) (broken : BrokenOff calls e) :
    BrokenOff (before ++ calls) e := by
  obtain ⟨front, x, rfl, smooth, failed⟩ := broken
  exact ⟨before ++ front, x, by simp, first.append smooth, failed⟩

/-- The only exchange that failed is the last one. -/
theorem BrokenOff.of_failed (broken : BrokenOff calls e) {x : ServiceExchange} (hx : x ∈ calls)
    {e' : Error} (failed : x.failure? = some e') : e' = e ∧ calls.getLast? = some x := by
  obtain ⟨before, last, rfl, smooth, own⟩ := broken
  rcases List.mem_append.1 hx with hx | hx
  · cases (smooth x hx).symm.trans failed
  · cases List.mem_singleton.1 hx
    exact ⟨Option.some.inj (failed.symm.trans own), by simp⟩

end ServiceExchange

open ServiceExchange

/-! ## Operations that relay failures -/

/-- In every run, the operation ends with the first exchange that fails, and fails as it did. -/
def Relays {α : Type} (a : ServiceAction α) : Prop :=
  ∀ events ending, Run a.run events ending → Smooth (Event.calls events) ∨
    ∃ e, BrokenOff (Event.calls events) e ∧ ending = .value (.error e)

namespace Relays

variable {α β : Type}

theorem result (result : Except Error α) : Relays (ExceptT.mk (.done result)) := by
  intro events ending run
  obtain ⟨rfl, -⟩ := run_done_iff.1 run
  exact .inl smooth_nil

theorem halt (reason : Halt) : Relays (Action.halt reason : ServiceAction α) := by
  intro events ending run
  obtain ⟨rfl, -⟩ := Action.run_halt_iff.1 run
  exact .inl smooth_nil

/-- One exchange, of which a failure is kept. -/
theorem exchange {c : ServiceCall} {read : c.Answer → Except Error α}
    (kept : ∀ answer, ServiceExchange.failure? ⟨c, answer⟩ = none ∨
      ∃ e, ServiceExchange.failure? ⟨c, answer⟩ = some e ∧ read answer = .error e) :
    Relays (ExceptT.mk (.call c fun answer => .done (read answer))) := by
  intro events ending run
  cases run with
  | call answer rest =>
    obtain ⟨rfl, rfl⟩ := run_done_iff.1 rest
    rcases kept answer with ok | ⟨e, failed, own⟩
    · exact .inl (List.forall_mem_singleton.2 ok)
    · exact .inr ⟨e, ⟨[], _, rfl, smooth_nil, failed⟩, congrArg _ own⟩

theorem send (r : ServiceRequest) : Relays r.send :=
  exchange fun
    | .ok _ => .inl rfl
    | .error _ => .inr ⟨_, rfl, rfl⟩

theorem await (presence : Presence) (address : BucketAddress) (seconds : UInt64) :
    Relays (awaitBucket presence address seconds) :=
  exchange fun
    | .ok _ => .inl rfl
    | .error _ => .inr ⟨_, rfl, rfl⟩

/-- Two operations in a row: the second is reached only when no exchange of the first failed. -/
theorem bind {a : ServiceAction α} {f : α → ServiceAction β} (first : Relays a)
    (rest : ∀ x, Relays (f x)) : Relays (a >>= f) := by
  intro events ending run
  rcases Action.run_bind_iff.1 run with ⟨_, started, rfl⟩ | ⟨_, started, rfl⟩ |
    ⟨x, before, after, started, later, rfl⟩
  · refine (first _ _ started).imp_right ?_
    rintro ⟨_, -, ends⟩
    cases ends
  · refine (first _ _ started).imp_right ?_
    rintro ⟨_, broken, ends⟩
    cases ends
    exact ⟨_, broken, rfl⟩
  · have smooth : Smooth (Event.calls before) := by
      rcases first _ _ started with smooth | ⟨_, -, ends⟩
      · exact smooth
      · cases ends
    rw [Event.calls_append]
    refine (rest x _ _ later).imp smooth.append ?_
    rintro ⟨e, broken, ends⟩
    exact ⟨e, broken.append smooth, ends⟩

/-- One of two operations. -/
theorem ite {condition : Prop} [Decidable condition] {a b : ServiceAction α} (first : Relays a)
    (second : Relays b) : Relays (if condition then a else b) := by
  split
  · exact first
  · exact second

/-- Behind an exchange that failed nothing follows, and the operation fails as it did. -/
theorem ending_of_failed {a : ServiceAction α} (relays : Relays a)
    {events : List (Event ServiceCall ServiceCall.Answer)} {ending : Ending (Except Error α)}
    (run : Run a.run events ending) {x : ServiceExchange} (hx : x ∈ Event.calls events) {e : Error}
    (failed : x.failure? = some e) :
    ending = .value (.error e) ∧ (Event.calls events).getLast? = some x := by
  rcases relays _ _ run with smooth | ⟨e', broken, rfl⟩
  · cases (smooth x hx).symm.trans failed
  · obtain ⟨rfl, last⟩ := broken.of_failed hx failed
    exact ⟨rfl, last⟩

end Relays

/-! ## The calls of the stores -/

namespace BucketService

variable {α : Type} (service : BucketService)

theorem withAddress_relays {action : BucketAddress → ServiceAction α}
    (relays : ∀ address, Relays (action address)) (bucket : String) :
    Relays (service.withAddress bucket action) := by
  unfold withAddress
  split
  · exact relays _
  · exact .result _

theorem await_relays (presence : Presence) (bucket : String) :
    Relays (service.await presence bucket) := by
  unfold await
  split
  · exact .await _ _ _
  · exact .result _

theorem perform_relays (c : BucketCall) : Relays (service.perform c) := by
  cases c with
  | listBuckets => exact (Relays.send _).bind fun _ => .result _
  | awaitPresence bucket | awaitAbsence bucket => exact service.await_relays _ bucket
  | listObjectsPage bucket token =>
    exact service.withAddress_relays (fun _ => (Relays.send _).bind fun _ => .result _) bucket
  | deleteObjects bucket keys =>
    exact .ite (.result _) (service.withAddress_relays
      (fun _ => (Relays.send _).bind fun _ => .result _) bucket)
  | createBucket bucket =>
    exact service.withAddress_relays (fun address => .send (.createBucket address)) bucket
  | deleteBucket bucket =>
    exact service.withAddress_relays (fun address => .send (.deleteBucket address)) bucket
  | putBucketPolicy bucket text =>
    exact service.withAddress_relays (fun address => .send (.putBucketPolicy address text)) bucket
  | putObject bucket key body =>
    exact service.withAddress_relays (fun address =>
      .ite (.result _) (.send (.putObject address key body))) bucket

end BucketService

namespace TableService

theorem carryOut_relays (c : TableCall) : Relays (ExceptT.mk (carryOut c)) := by
  cases c with
  | getItem table key => exact .send (.getItem table key)

theorem carryOut_returns (c : TableCall) : (carryOut c).Returns := by
  cases c with
  | getItem table key => exact returns_call fun _ => returns_done _

end TableService

namespace DatabaseService

theorem entriesFrom_relays {α : Type} {fetch : Option String → ServiceAction (MarkedPage α)}
    (fetches : ∀ sent, Relays (fetch sent)) (pages : Nat) (before : List α)
    (sent : Option String) : Relays (entriesFrom fetch pages before sent) := by
  induction pages generalizing before sent with
  | zero => exact .halt _
  | succ pages ih =>
    refine (fetches sent).bind fun page => ?_
    dsimp only
    split
    · exact .result _
    · exact ih _ _

theorem perform_relays (pages : Nat) (c : CatalogCall) : Relays (perform pages c) := by
  cases c with
  | parameterGroups =>
    exact (entriesFrom_relays (fun _ => .send _) pages [] none).bind fun _ => .result _
  | clusters => exact entriesFrom_relays (fun _ => .send _) pages [] none

end DatabaseService

/-! ## Operations -/

section Carried

variable {C : Type} {Result : C → Type} {α : Type}
  {f : (c : C) → ServiceProgram (Except Error (Result c))}
  {outer : List (Event C fun c => Except Error (Result c))}
  {inner : List (Event ServiceCall ServiceCall.Answer)}

/-- Where no call is made, nothing is exchanged. -/
theorem Program.CarriedOut.silent (carried : CarriedOut f outer inner)
    (silent : Event.calls outer = []) : Event.calls inner = [] := by
  induction carried with
  | nil => rfl
  | note entry rest ih => exact ih silent
  | call run rest ih => cases silent

variable (relays : ∀ c, Relays (ExceptT.mk (f c)))

include relays

/-- While a call that succeeds is carried out no exchange fails. -/
theorem smooth_of_ok {c : C} {answer : Except Error (Result c)}
    {events : List (Event ServiceCall ServiceCall.Answer)} (run : Run (f c) events (.value answer))
    {result : Result c} (ok : answer = .ok result) : Smooth (Event.calls events) := by
  rcases relays c _ _ run with smooth | ⟨_, -, ends⟩
  · exact smooth
  · cases ok.symm.trans (Ending.value.inj ends)

/-- Behind calls that succeed no exchange failed. -/
theorem Program.CarriedOut.smooth (carried : CarriedOut f outer inner)
    (accepted : ∀ x ∈ Event.calls outer, Accepted x) : Smooth (Event.calls inner) := by
  induction carried with
  | nil => exact smooth_nil
  | note entry rest ih => exact ih accepted
  | call run rest ih =>
    obtain ⟨⟨_, ok⟩, accepted⟩ := List.forall_mem_cons.1 accepted
    rw [Event.calls_append]
    exact (smooth_of_ok relays run ok).append (ih accepted)

/-- Behind a last call that fails, the last exchange failed in the same way, or none did. -/
theorem Program.CarriedOut.brokenOff (carried : CarriedOut f outer inner) {e : Error}
    (failed : FailedLast (Event.calls outer) e) :
    Smooth (Event.calls inner) ∨ BrokenOff (Event.calls inner) e := by
  induction carried with
  | nil =>
    obtain ⟨before, _, split, -⟩ := failed
    cases before <;> cases split
  | note entry rest ih => exact ih failed
  | call started rest ih =>
    rw [Event.calls_append]
    -- the call that failed is this one, or a later one
    obtain ⟨_ | ⟨first, before⟩, c, split, accepted⟩ := failed
    · obtain ⟨own, silent⟩ := List.cons.inj split
      cases own
      rw [rest.silent silent, List.append_nil]
      refine (relays _ _ _ started).imp_right ?_
      rintro ⟨_, broken, ends⟩
      cases ends
      exact broken
    · obtain ⟨rfl, behind⟩ := List.cons.inj split
      obtain ⟨⟨_, ok⟩, accepted⟩ := List.forall_mem_cons.1 accepted
      have smooth := smooth_of_ok relays started ok
      exact (ih ⟨before, c, behind, accepted⟩).imp smooth.append (BrokenOff.append smooth)

/-- What an operation over a store relays, it relays over the service behind it. -/
theorem Relays.handle {own : List ((c : C) × Except Error (Result c)) → Error → Prop}
    {a : Action C (fun c => Except Error (Result c)) α}
    (ends : ∀ events ending, Run a.run events ending →
      Action.FaithfulEnd own (Event.calls events) ending)
    (returns : ∀ c, (f c).Returns) : Relays (ExceptT.mk (a.run.handle f)) := by
  intro events ending run
  obtain ⟨outer, run, carried⟩ := (run_handle_iff returns).1 run
  -- only a call that failed can have a failed exchange behind it
  match ending, ends _ _ run with
  | .value (.error e), .inl failed =>
    exact (carried.brokenOff relays failed).imp_right fun broken => ⟨e, broken, rfl⟩
  | .value (.error e), .inr ⟨accepted, _⟩ => exact .inl (carried.smooth relays accepted)
  | .value (.ok _), accepted => exact .inl (carried.smooth relays accepted)
  | .halted _, accepted => exact .inl (carried.smooth relays accepted)

end Carried

/-- A single call relays the failures of its service. -/
theorem Undertaking.call_relays {s : Store} (c : s.Call) (service : s.Service) :
    Relays ((Undertaking.call c).over service) := by
  have only : (Undertaking.call c).over service = ExceptT.mk (s.carryOut service c) :=
    congrArg ExceptT.mk (bind_done _)
  rw [only]
  cases s with
  | buckets => exact BucketService.perform_relays service c
  | items => exact TableService.carryOut_relays c
  | catalog => exact DatabaseService.perform_relays service c

/-- Every operation relays the failures of its service. -/
theorem Operation.relays {s : Store} {α : Type} (operation : Operation s α) (service : s.Service) :
    Relays ((Undertaking.whole operation).over service) := by
  cases s with
  | buckets =>
    exact Relays.handle (BucketService.perform_relays service)
      (fun _ _ => operation.ends_faithfully) (BucketService.carryOut_returns service)
  | items =>
    exact Relays.handle TableService.carryOut_relays (fun _ _ => operation.ends_faithfully)
      TableService.carryOut_returns
  | catalog =>
    -- a listing may halt, but it is the only call of its operation
    cases operation with
    | listParameterGroups =>
      exact Undertaking.call_relays (s := .catalog) CatalogCall.parameterGroups service
    | describeClusters => exact Undertaking.call_relays (s := .catalog) CatalogCall.clusters service

theorem Undertaking.relays {s : Store} {α : Type} (undertaking : Undertaking s α)
    (service : s.Service) : Relays (undertaking.over service) := by
  cases undertaking with
  | whole operation => exact operation.relays service
  | page lister =>
    have ends : Action.FailsFast (fun _ => False) lister.step := lister.step_failsFast
    exact Relays.handle (BucketService.perform_relays service) ends
      (BucketService.carryOut_returns service)
  | call c => exact Undertaking.call_relays c service

/-! ## Uploads -/

/-- Over the service, what could be opened is stored by the call that stores an object. -/
theorem Undertaking.uploadFile_carriedOut {contents : Except Files.Failure ByteArray} {body : Body}
    (opened : Body.ofFile contents = .ok body) (bucket key path : String)
    (service : BucketService) :
    (Undertaking.whole (.uploadFile contents bucket key path)).over service = (do
      ExceptT.mk (service.carryOut (.putObject bucket key body))
      Action.log .info ("uploaded " ++ Text.quoted path ++ " to " ++ bucket ++ "/" ++ key) :
        ServiceAction Unit) := by
  show ExceptT.mk ((CloudOps.uploadFile contents bucket key path).run.handle service.carryOut) = _
  rw [uploadFile_of_body bucket key path opened]
  show ExceptT.mk ((service.carryOut (.putObject bucket key body)).bind _) =
    ExceptT.mk ((service.carryOut (.putObject bucket key body)).bind _)
  congr
  funext answer
  cases answer <;> rfl

/-- Over the service, storing what could be opened is one request and an entry in the log. A body
that breaks off, as that of a folder does, is sent as any other: what becomes of it is for the
answer to say. -/
theorem Undertaking.uploadFile_over {contents : Except Files.Failure ByteArray} {body : Body}
    (opened : Body.ofFile contents = .ok body) {bucket key : String} (named : bucket ≠ "")
    (keyed : key ≠ "") (path : String) (service : BucketService) :
    (Undertaking.whole (.uploadFile contents bucket key path)).over service = (do
      (ServiceRequest.putObject ⟨bucket, service.addressing⟩ key body).send
      Action.log .info ("uploaded " ++ Text.quoted path ++ " to " ++ bucket ++ "/" ++ key) :
        ServiceAction Unit) := by
  rw [uploadFile_carriedOut opened, service.carryOut_put named keyed]
  rfl

/-- The answer that is left in the script stays there. -/
example :
    let upload := Undertaking.whole (.uploadFile (.error .isFolder) "photos" "cover" "folder")
    let trace := (upload.over (BucketService.mk .virtualHost 100)).run.run ServiceScript.answer
      ⟨[.silence], []⟩
    trace.ending =
        .value (.error (.service .transient none (.diagnostic (some "body broke off")))) ∧
      trace.state.replies = [.silence] :=
  ⟨rfl, rfl⟩

/-! ## Requests that cannot be built -/

/-- The request of the call cannot be built: the bucket, or the object to store, has no name. -/
def BucketCall.Unbuildable : BucketCall → Prop
  | createBucket bucket => bucket = ""
  | deleteBucket bucket => bucket = ""
  | listObjectsPage bucket _ => bucket = ""
  | deleteObjects bucket keys => keys ≠ [] ∧ bucket = ""
  | putBucketPolicy bucket _ => bucket = ""
  | putObject bucket key _ => bucket = "" ∨ key = ""
  | _ => False

/-- The first request of the undertaking cannot be built. -/
def Undertaking.Unbuildable {s : Store} {α : Type} : Undertaking s α → Prop
  | whole (.listObjects pages bucket) => 0 < pages ∧ bucket = ""
  | whole (.makeBucket bucket) => bucket = ""
  | whole (.removeBucket bucket) => bucket = ""
  | whole (.emptyBucket pages bucket) => 0 < pages ∧ bucket = ""
  | whole (.emptyAndRemoveBucket pages bucket) => 0 < pages ∧ bucket = ""
  | whole (.setBucketPolicy bucket _) => bucket = ""
  | whole (.uploadFile contents bucket key _) =>
    (∃ body, Body.ofFile contents = .ok body) ∧ (bucket = "" ∨ key = "")
  | page lister => lister.done = false ∧ lister.bucket = ""
  | @call .buckets c => BucketCall.Unbuildable c
  | _ => False

/-- A call whose request cannot be built sends nothing. -/
theorem BucketCall.Unbuildable.carryOut {c : BucketCall} (unbuildable : c.Unbuildable)
    (service : BucketService) :
    ∃ what, service.carryOut c = .done (.error (BucketService.unnamed what).error) := by
  cases c with
  | listBuckets | awaitPresence | awaitAbsence => exact unbuildable.elim
  | createBucket | deleteBucket | listObjectsPage | putBucketPolicy =>
    cases unbuildable
    exact ⟨"bucket", rfl⟩
  | deleteObjects bucket keys =>
    obtain ⟨some, rfl⟩ := unbuildable
    exact ⟨"bucket", congrArg ExceptT.run (if_neg (mt List.isEmpty_iff.1 some))⟩
  | putObject bucket key body =>
    by_cases named : bucket = ""
    · subst named
      exact ⟨"bucket", rfl⟩
    · cases unbuildable.resolve_left named
      exact ⟨"key", congrArg ExceptT.run (service.withAddress_of_named named _)⟩

/-- The undertaking makes no call and fails so. -/
def FailsUnsent {α : Type} (a : ServiceAction α) (e : Error) : Prop :=
  a.run = .done (.error e) ∨ ∃ entry, a.run = .note entry (.done (.error e))

theorem FailsUnsent.ends {α : Type} {a : ServiceAction α} {e : Error} (unsent : FailsUnsent a e)
    {events : List (Event ServiceCall ServiceCall.Answer)} {ending : Ending (Except Error α)}
    (run : Run a.run events ending) : Event.calls events = [] ∧ ending = .value (.error e) := by
  rcases unsent with same | ⟨entry, same⟩
  · rw [same] at run
    obtain ⟨rfl, rfl⟩ := run_done_iff.1 run
    exact ⟨rfl, rfl⟩
  · rw [same] at run
    cases run with
    | note _ run =>
      obtain ⟨rfl, rfl⟩ := run_done_iff.1 run
      exact ⟨rfl, rfl⟩

/-- Such an undertaking fails before it makes a call. -/
theorem Undertaking.Unbuildable.failsUnsent {s : Store} {α : Type}
    {undertaking : Undertaking s α} (unbuildable : undertaking.Unbuildable) (service : s.Service) :
    ∃ what, FailsUnsent (undertaking.over service) (BucketService.unnamed what).error := by
  cases undertaking with
  | page lister =>
    obtain ⟨bucket, token, done⟩ := lister
    obtain ⟨rfl, rfl⟩ : done = false ∧ bucket = "" := unbuildable
    exact ⟨"bucket", .inl rfl⟩
  | @call s c =>
    cases s with
    | buckets =>
      obtain ⟨what, unbuilt⟩ := BucketCall.Unbuildable.carryOut unbuildable service
      refine ⟨what, .inl ?_⟩
      exact (bind_done _).trans unbuilt
    | items | catalog => exact unbuildable.elim
  | whole operation =>
    cases operation with
    | listBuckets | getMovie | listParameterGroups | describeClusters => exact unbuildable.elim
    | makeBucket bucket | removeBucket bucket =>
      cases unbuildable
      exact ⟨"bucket", .inl rfl⟩
    | setBucketPolicy bucket policy =>
      cases unbuildable
      exact ⟨"bucket", .inr ⟨_, rfl⟩⟩
    | listObjects pages bucket | emptyBucket pages bucket | emptyAndRemoveBucket pages bucket =>
      obtain ⟨some, rfl⟩ := unbuildable
      obtain ⟨more, rfl⟩ := Nat.exists_eq_succ_of_ne_zero some.ne'
      exact ⟨"bucket", .inl rfl⟩
    | uploadFile contents bucket key path =>
      obtain ⟨⟨body, opened⟩, unnamed⟩ := unbuildable
      obtain ⟨what, unbuilt⟩ := BucketCall.Unbuildable.carryOut
        (show (BucketCall.putObject bucket key body).Unbuildable from unnamed) service
      refine ⟨what, .inl ?_⟩
      refine (congrArg ExceptT.run (uploadFile_carriedOut opened bucket key path service)).trans ?_
      rw [unbuilt]
      rfl

/-! ## The law -/

/-- What the caller gets when a request of an undertaking fails. -/
structure FailedRequests {s : Store} {α : Type} (undertaking : Undertaking s α)
    (calls : List ServiceExchange) (ending : Ending (Except Error α)) : Prop where
  /-- A service error reaches the caller with its code, and with its message or else the code,
  whatever its form. Its kind depends on the tables of codes alone. -/
  refused : ∀ x ∈ calls, ∀ received : ReceivedError, x.Failed received.failure →
    ∀ code, received.code = some code → ∃ kind,
      ending = .value (.error (.service kind (some code) (.text (received.message.getD code)))) ∧
        (kind = .notFound ↔ code ∈ ErrorKind.notFoundCodes) ∧
        (kind = .transient ↔ code ∈ ErrorKind.transientCodes) ∧ kind ≠ .fatal
  /-- A service error without a code is of no particular kind. -/
  uncoded : ∀ x ∈ calls, ∀ received : ReceivedError, x.Failed received.failure →
    received.code = none → ∃ message, ending = .value (.error (.service .unknown none message)) ∧
      ∀ text, received.message = some text → message = .text text
  /-- A request that got no usable answer may be made again. -/
  unanswered : ∀ x ∈ calls, ∀ cause,
    x.Failed (.timeout cause) ∨ x.Failed (.dispatch cause) ∨ x.Failed (.response cause) →
      ending = .value (.error (.service .transient none (.diagnostic (some cause))))
  /-- A request that could not be built is fatal. -/
  unbuilt : ∀ x ∈ calls, ∀ cause, x.Failed (.construction cause) →
    ending = .value (.error (.service .fatal none (.diagnostic (some cause))))
  /-- So is one that is not even sent because a name is missing. -/
  unsent : undertaking.Unbuildable → calls = [] ∧
    ∃ message, ending = .value (.error (.service .fatal none message))
  /-- Nothing is exchanged behind a request that failed. -/
  last : ∀ x ∈ calls, ∀ failure, x.Failed failure → calls.getLast? = some x

/-- **Failed requests reach the caller**, at any place of a run of any undertaking. -/
theorem failed_requests_reach_caller {s : Store} {α : Type} {undertaking : Undertaking s α}
    {service : s.Service} {events : List (Event ServiceCall ServiceCall.Answer)}
    {ending : Ending (Except Error α)} (run : Run (undertaking.over service).run events ending) :
    FailedRequests undertaking (Event.calls events) ending := by
  have reaches {x : ServiceExchange} (hx : x ∈ Event.calls events) {failure : RequestFailure}
      (failed : x.Failed failure) :
      ending = .value (.error failure.error) ∧ (Event.calls events).getLast? = some x :=
    (undertaking.relays service).ending_of_failed run hx failed.failure?
  constructor
  case refused =>
    intro x hx received failed code own
    obtain ⟨rfl, -⟩ := reaches hx failed
    refine ⟨.ofCode? (some code), ?_, ErrorKind.ofCode?_eq_notFound_iff,
      ErrorKind.ofCode?_eq_transient_iff, ErrorKind.ofCode?_ne_fatal _⟩
    rw [ReceivedError.failure, own, RequestFailure.error]
    cases received.message <;> rfl
  case uncoded =>
    intro x hx received failed own
    obtain ⟨rfl, -⟩ := reaches hx failed
    refine ⟨serviceMessage none received.message, ?_, fun text given => ?_⟩
    · rw [ReceivedError.failure, own]
      rfl
    · rw [given]
      rfl
  case unanswered =>
    rintro x hx cause (failed | failed | failed) <;> exact (reaches hx failed).1
  case unbuilt => exact fun x hx cause failed => (reaches hx failed).1
  case unsent =>
    intro unbuildable
    obtain ⟨what, unsent⟩ := unbuildable.failsUnsent service
    obtain ⟨silent, ends⟩ := unsent.ends run
    exact ⟨silent, _, ends⟩
  case last => exact fun x hx failure failed => (reaches hx failed).2

/-- A bucket is emptied, and the request for its second page is throttled without a message. -/
def throttledRun : Trace ServiceCall ServiceCall.Answer ServiceScript (Except Error Nat) :=
  ((Undertaking.whole (.emptyAndRemoveBucket 2 "photos")).over
    (BucketService.mk .virtualHost 100)).run.run ServiceScript.answer
    ⟨[.parts { ReplyParts.empty with
        keys := [some "a"], truncated := some true, token := some "t" },
      .parts ReplyParts.empty, .refusal (some "SlowDown") none], []⟩

theorem failed_requests_reach_caller_throttled :
    Run ((Undertaking.whole (.emptyAndRemoveBucket 2 "photos")).over
        (BucketService.mk .virtualHost 100)).run throttledRun.events throttledRun.ending ∧
      throttledRun.ending =
        .value (.error (.service .transient (some "SlowDown") (.text "SlowDown"))) ∧
      FailedRequests (.whole (.emptyAndRemoveBucket 2 "photos")) (Event.calls throttledRun.events)
        throttledRun.ending := by
  have run : Run ((Undertaking.whole (.emptyAndRemoveBucket 2 "photos")).over
      (BucketService.mk .virtualHost 100)).run throttledRun.events throttledRun.ending :=
    run_isRun _ _ _
  exact ⟨run, by cbv, failed_requests_reach_caller run⟩

end CloudOps
