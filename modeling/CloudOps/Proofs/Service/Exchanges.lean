import CloudOps.Proofs.Bucket.Requests
import CloudOps.Proofs.Program.Handled
import CloudOps.Service.Buckets

/-!
# The requests behind the calls of a bucket store

* `BucketService.carryOut_returns`: every call of a bucket store comes to an end over services.
* `BucketService.carryOut_list`, `BucketService.carryOut_delete`, `BucketService.carryOut_put`: what
  a listing, a deletion and an object are there: one request, whose answer is read as a page or as
  failures.
* `ServiceExchange.heard`: an exchange with a service as the bucket store has it.
* `ServiceExchange.HeardAs`: the same for all exchanges of a run, with what it says of their tokens,
  pages, keys and failures.
* `BucketService.carriedOut_walk`: the exchanges of a walk over services are related to its calls
  in this way.
-/

namespace CloudOps

open Program

/-- What was asked of a service, and what came back. -/
abbrev ServiceExchange := (c : ServiceCall) × c.Answer

namespace BucketService

variable {α : Type} (service : BucketService)

theorem send_returns (r : ServiceRequest) : r.send.run.Returns :=
  returns_call fun _ => returns_done _

theorem withAddress_returns {action : BucketAddress → ServiceAction α}
    (returns : ∀ address, (action address).run.Returns) (bucket : String) :
    (service.withAddress bucket action).run.Returns := by
  unfold withAddress
  split
  · exact returns _
  · exact returns_done _

theorem await_returns (presence : Presence) (bucket : String) :
    (service.await presence bucket).run.Returns := by
  unfold await
  split
  · exact returns_call fun _ => returns_done _
  · exact returns_done _

/-- Every call comes to an end. -/
theorem carryOut_returns (c : BucketCall) : (service.carryOut c).Returns := by
  unfold carryOut
  cases c with
  | listBuckets => exact (send_returns _).action_bind fun _ => returns_done _
  | awaitPresence bucket | awaitAbsence bucket => exact service.await_returns _ bucket
  | listObjectsPage bucket token =>
    exact service.withAddress_returns
      (fun _ => (send_returns _).action_bind fun _ => returns_done _) bucket
  | deleteObjects bucket keys =>
    exact returns_ite (returns_done _) (service.withAddress_returns
      (fun _ => (send_returns _).action_bind fun _ => returns_done _) bucket)
  | createBucket bucket =>
    exact service.withAddress_returns (fun address => send_returns (.createBucket address)) bucket
  | deleteBucket bucket =>
    exact service.withAddress_returns (fun address => send_returns (.deleteBucket address)) bucket
  | putBucketPolicy bucket text =>
    exact service.withAddress_returns
      (fun address => send_returns (.putBucketPolicy address text)) bucket
  | putObject bucket key body =>
    exact service.withAddress_returns (fun address =>
      returns_ite (returns_done _) (send_returns (.putObject address key body))) bucket

section OneRequest

variable {bucket : String} (named : bucket ≠ "")

include named

theorem withAddress_of_named (action : BucketAddress → ServiceAction α) :
    service.withAddress bucket action = action ⟨bucket, service.addressing⟩ := by
  have : bucket.isEmpty = false := by simpa using named
  simp only [withAddress, address?, this, Bool.false_eq_true, if_false]

theorem carryOut_list (token : Option String) :
    service.carryOut (.listObjectsPage bucket token) =
      .call (.request (.listObjects ⟨bucket, service.addressing⟩ token))
        fun answer : Except RequestFailure ListedObjects =>
          .done ((answer.mapError RequestFailure.error).map ListedObjects.page) := by
  refine (congrArg ExceptT.run (service.withAddress_of_named named _)).trans ?_
  show Program.call _ _ = _
  congr
  funext answer
  cases answer <;> rfl

theorem carryOut_delete {keys : List String} (some : keys ≠ []) :
    service.carryOut (.deleteObjects bucket keys) =
      .call (.request (.deleteObjects ⟨bucket, service.addressing⟩ keys))
        fun answer : Except RequestFailure (List ListedFailure) =>
          .done ((answer.mapError RequestFailure.error).map (List.map ListedFailure.failure)) := by
  refine (congrArg ExceptT.run (if_neg (mt List.isEmpty_iff.1 some))).trans ?_
  refine (congrArg ExceptT.run (service.withAddress_of_named named _)).trans ?_
  show Program.call _ _ = _
  congr
  funext answer
  cases answer <;> rfl

/-- An object is sent with its body, whether or not that can be read. -/
theorem carryOut_put {key : String} (keyed : key ≠ "") (body : Body) :
    service.carryOut (.putObject bucket key body) =
      (ServiceRequest.putObject ⟨bucket, service.addressing⟩ key body).send.run := by
  have keyed : ¬ key.isEmpty = true := by simpa using keyed
  refine (congrArg ExceptT.run (service.withAddress_of_named named _)).trans ?_
  exact congrArg ExceptT.run (if_neg keyed)

end OneRequest

end BucketService

namespace ServiceExchange

/-- What the exchange is for a bucket store: a listing or a delete request. -/
def heard : ServiceExchange → Option BucketExchange
  | ⟨.request (.listObjects address token), (answer : Except RequestFailure ListedObjects)⟩ =>
    some ⟨.listObjectsPage address.bucket token,
      (answer.mapError RequestFailure.error).map ListedObjects.page⟩
  | ⟨.request (.deleteObjects address keys),
      (answer : Except RequestFailure (List ListedFailure))⟩ =>
    some ⟨.deleteObjects address.bucket keys,
      (answer.mapError RequestFailure.error).map (List.map ListedFailure.failure)⟩
  | _ => none

/-- The answer to a listing request. -/
def listing? : ServiceExchange → Option (Except RequestFailure ListedObjects)
  | ⟨.request (.listObjects _ _), answer⟩ => some answer
  | _ => none

/-- The token that a listing request carries. -/
def token? : ServiceExchange → Option (Option String)
  | ⟨.request (.listObjects _ token), _⟩ => some token
  | _ => none

/-- The keys that a delete request was sent. -/
def sent : ServiceExchange → List String
  | ⟨.request (.deleteObjects _ keys), _⟩ => keys
  | _ => []

/-- The errors that a delete request was answered with. -/
def reported : ServiceExchange → List ListedFailure
  | ⟨.request (.deleteObjects _ _), .ok failures⟩ => failures
  | _ => []

/-- A delete request, if it is one, succeeded, with at most as many errors as it was sent keys. -/
def Accepted : ServiceExchange → Prop
  | ⟨.request (.deleteObjects _ keys), (answer : Except RequestFailure (List ListedFailure))⟩ =>
    ∃ failures, answer = .ok failures ∧ failures.length ≤ keys.length
  | _ => True

theorem accepted_of_listing {x : ServiceExchange} {address : BucketAddress} {token : Option String}
    (h : x.1 = .request (.listObjects address token)) : x.Accepted := by
  obtain ⟨_, answer⟩ := x
  cases h
  trivial

/-- The exchange is a request to list or delete objects of the bucket. -/
def IsWalk (address : BucketAddress) (x : ServiceExchange) : Prop :=
  (∃ token, x.1 = .request (.listObjects address token)) ∨
    ∃ keys, x.1 = .request (.deleteObjects address keys)

section Heard

variable {x : ServiceExchange} {y : BucketExchange}

/-- Only listing and delete requests are heard. -/
theorem eq_of_heard (h : x.heard = some y) :
    (∃ address token, ∃ answer : Except RequestFailure ListedObjects,
      x = ⟨.request (.listObjects address token), answer⟩ ∧
      y = ⟨.listObjectsPage address.bucket token,
        (answer.mapError RequestFailure.error).map ListedObjects.page⟩) ∨
    ∃ address keys, ∃ answer : Except RequestFailure (List ListedFailure),
      x = ⟨.request (.deleteObjects address keys), answer⟩ ∧
      y = ⟨.deleteObjects address.bucket keys,
        (answer.mapError RequestFailure.error).map (List.map ListedFailure.failure)⟩ := by
  obtain ⟨_ | _, answer⟩ := x
  case request r =>
    cases r <;> cases h
    case listObjects address token => exact .inl ⟨address, token, answer, rfl, rfl⟩
    case deleteObjects address keys => exact .inr ⟨address, keys, answer, rfl, rfl⟩
  case wait => cases h

theorem page?_of_heard (h : x.heard = some y) :
    y.page? = (x.listing?.bind fun answer => answer.toOption).map ListedObjects.page := by
  rcases eq_of_heard h with ⟨_, _, answer, rfl, rfl⟩ | ⟨_, _, _, rfl, rfl⟩
  · cases answer <;> rfl
  · rfl

theorem token?_of_heard (h : x.heard = some y) : y.token? = x.token? := by
  rcases eq_of_heard h with ⟨_, _, _, rfl, rfl⟩ | ⟨_, _, _, rfl, rfl⟩ <;> rfl

theorem sent_of_heard (h : x.heard = some y) : y.sent = x.sent := by
  rcases eq_of_heard h with ⟨_, _, _, rfl, rfl⟩ | ⟨_, _, _, rfl, rfl⟩ <;> rfl

theorem reported_of_heard (h : x.heard = some y) :
    y.reported = x.reported.map ListedFailure.failure := by
  rcases eq_of_heard h with ⟨_, _, _, rfl, rfl⟩ | ⟨_, _, answer, rfl, rfl⟩
  · rfl
  · cases answer <;> rfl

theorem not_fails_of_heard (h : x.heard = some y)
    (listed : ∀ answer, x.listing? = some answer → ∃ reply, answer = .ok reply)
    (accepted : x.Accepted) : ¬ y.Fails := by
  rcases eq_of_heard h with ⟨_, _, answer, rfl, rfl⟩ | ⟨_, _, answer, rfl, rfl⟩
  · obtain ⟨reply, rfl⟩ := listed answer rfl
    exact BucketExchange.not_fails_list
  · obtain ⟨failures, rfl, few⟩ := accepted
    refine mt BucketExchange.fails_delete_iff.1 (Nat.not_lt.2 ?_)
    rwa [List.length_map]

end Heard

/-- The second exchanges are what the first ones are for a bucket store. -/
def HeardAs : List ServiceExchange → List BucketExchange → Prop :=
  List.Forall₂ fun x y => x.heard = some y

section HeardAs

variable {β : Type} {calls : List ServiceExchange} {outer : List BucketExchange}

theorem HeardAs.filterMap {f : ServiceExchange → Option β} {g : BucketExchange → Option β}
    (same : HeardAs calls outer) (agree : ∀ {x y}, x.heard = some y → g y = f x) :
    outer.filterMap g = calls.filterMap f := by
  induction same with
  | nil => rfl
  | cons h rest ih => rw [List.filterMap_cons, List.filterMap_cons, agree h, ih]

theorem HeardAs.flatMap {f : ServiceExchange → List β} {g : BucketExchange → List β}
    (same : HeardAs calls outer) (agree : ∀ {x y}, x.heard = some y → g y = f x) :
    outer.flatMap g = calls.flatMap f := by
  induction same with
  | nil => rfl
  | cons h rest ih => rw [List.flatMap_cons, List.flatMap_cons, agree h, ih]

/-- What neighbours satisfy is carried over. -/
theorem HeardAs.isChain {R : ServiceExchange → ServiceExchange → Prop}
    {S : BucketExchange → BucketExchange → Prop} (same : HeardAs calls outer)
    (agree : ∀ {x x' y y'}, x.heard = some y → x'.heard = some y' → S y y' → R x x')
    (chain : outer.IsChain S) : calls.IsChain R := by
  induction same with
  | nil => exact .nil
  | cons h rest ih =>
    cases rest with
    | nil => exact .singleton _
    | cons h' rest =>
      obtain ⟨first, chain⟩ := List.isChain_cons_cons.1 chain
      exact .cons_cons (agree h h' first) (ih chain)

theorem HeardAs.mem_iff {y : BucketExchange} (same : HeardAs calls outer) :
    y ∈ outer ↔ ∃ x ∈ calls, x.heard = some y := by
  have heard : outer.filterMap some = calls.filterMap ServiceExchange.heard :=
    same.filterMap Eq.symm
  rw [← List.mem_filterMap, ← heard, List.filterMap_some]

theorem HeardAs.exists_delete (same : HeardAs calls outer) {x : ServiceExchange} (hx : x ∈ calls)
    {address : BucketAddress} {keys : List String}
    (deletion : x.1 = .request (.deleteObjects address keys)) :
    ∃ y ∈ outer, y.1 = .deleteObjects address.bucket keys := by
  obtain ⟨_, answer⟩ := x
  cases deletion
  exact ⟨_, same.mem_iff.2 ⟨_, hx, rfl⟩, rfl⟩

theorem HeardAs.tokens (same : HeardAs calls outer) :
    requestedTokens outer = calls.filterMap token? :=
  same.filterMap token?_of_heard

theorem HeardAs.keys (same : HeardAs calls outer) :
    sentKeys outer = calls.flatMap ServiceExchange.sent :=
  same.flatMap sent_of_heard

theorem HeardAs.failures (same : HeardAs calls outer) :
    reportedFailures outer = (calls.flatMap reported).map ListedFailure.failure := by
  rw [List.map_flatMap]
  exact same.flatMap reported_of_heard

theorem HeardAs.pages {given : List ListedObjects} (same : HeardAs calls outer)
    (listed : calls.filterMap listing? = given.map .ok) :
    listedPages outer = given.map ListedObjects.page := by
  have pages : listedPages outer = (calls.filterMap listing?).filterMap
      fun answer => answer.toOption.map ListedObjects.page := by
    rw [List.filterMap_filterMap]
    refine same.filterMap fun h => (page?_of_heard h).trans ?_
    exact Option.map_bind
  rw [pages, listed, List.filterMap_map]
  exact congrFun List.filterMap_eq_map given

end HeardAs

end ServiceExchange

open ServiceExchange

/-- Walks through a bucket with a name are carried out request by request. -/
theorem BucketService.carriedOut_walk {service : BucketService} {bucket : String}
    (named : bucket ≠ "") {outer : List (Event BucketCall BucketCall.Answer)}
    {inner : List (Event ServiceCall ServiceCall.Answer)}
    (carried : CarriedOut service.carryOut outer inner)
    (walk : ∀ y ∈ Event.calls outer, BucketExchange.IsWalk bucket y)
    (some : ∀ y ∈ Event.calls outer, ∀ keys, y.1 = .deleteObjects bucket keys → keys ≠ []) :
    HeardAs (Event.calls inner) (Event.calls outer) ∧
      ∀ x ∈ Event.calls inner, IsWalk ⟨bucket, service.addressing⟩ x := by
  induction carried with
  | nil => exact ⟨.nil, List.forall_mem_nil _⟩
  | note entry rest ih => exact ih walk some
  | @call c r own inner outer run rest ih =>
    obtain ⟨first, walk⟩ := List.forall_mem_cons.1 walk
    obtain ⟨first_some, some⟩ := List.forall_mem_cons.1 some
    obtain ⟨heard, requests⟩ := ih walk some
    rcases first with ⟨token, h⟩ | ⟨keys, h⟩
    · cases h
      rw [carryOut_list service named] at run
      cases run with
      | call answer run =>
        cases run
        exact ⟨.cons rfl heard, List.forall_mem_cons.2 ⟨.inl ⟨token, rfl⟩, requests⟩⟩
    · cases h
      rw [carryOut_delete service named (first_some keys rfl)] at run
      cases run with
      | call answer run =>
        cases run
        exact ⟨.cons rfl heard, List.forall_mem_cons.2 ⟨.inr ⟨keys, rfl⟩, requests⟩⟩

end CloudOps
