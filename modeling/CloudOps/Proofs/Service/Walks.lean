import CloudOps.Proofs.Bucket.Emptying
import CloudOps.Proofs.Bucket.Listing
import CloudOps.Proofs.Bucket.Removal
import CloudOps.Proofs.Service.Exchanges
import CloudOps.Service.Script

/-!
# Walks through the replies of a service

* `ListedObjects.upToLast`: the replies that a walk consumes, up to the first behind which the
  listing does not go on.
* `Serves`: a service answers the listing requests of a run with these replies. `Answered` follows
  them from the service to the bucket store.
* `listObjects_served`, `emptyBucket_served`: what is requested and returned when a bucket is listed
  or emptied is determined by the replies.
* `BucketService.replies_decide_walks`: both laws about the same replies.
-/

namespace CloudOps

open Program ServiceExchange

/-! ## The replies of a walk -/

namespace ListedObjects

/-- The listing goes on behind the reply: it is truncated and has a token. -/
def GoesOn (reply : ListedObjects) : Prop := reply.truncated = some true ∧ reply.nextToken ≠ none

instance (reply : ListedObjects) : Decidable reply.GoesOn := inferInstanceAs (Decidable (_ ∧ _))

/-- The replies up to and including the first behind which the listing does not go on. -/
def upToLast : List ListedObjects → List ListedObjects
  | [] => []
  | reply :: more => if reply.GoesOn then reply :: upToLast more else [reply]

/-- The keys of the entries that have one. -/
def namedKeys (replies : List ListedObjects) : List String :=
  replies.flatMap fun reply => reply.keys.filterMap id

theorem page_nextToken_eq_none_iff {reply : ListedObjects} :
    reply.page.nextToken = none ↔ ¬ reply.GoesOn := by
  obtain ⟨keys, _ | _ | _, token⟩ := reply <;> simp [page, GoesOn]

theorem goesOn_of_page {reply : ListedObjects} (more : reply.page.nextToken ≠ none) :
    reply.GoesOn :=
  not_not.1 (mt page_nextToken_eq_none_iff.2 more)

theorem GoesOn.page_nextToken {reply : ListedObjects} (goes_on : reply.GoesOn) :
    reply.page.nextToken = reply.nextToken := by
  simp [page, goes_on.1]

theorem upToLast_append {front : List ListedObjects} {last : ListedObjects}
    (goes_on : ∀ reply ∈ front, reply.GoesOn) (ends : ¬ last.GoesOn) (more : List ListedObjects) :
    upToLast (front ++ last :: more) = front ++ [last] := by
  induction front with
  | nil => exact if_neg ends
  | cons reply front ih =>
    obtain ⟨first, goes_on⟩ := List.forall_mem_cons.1 goes_on
    exact (if_pos first).trans (congrArg (reply :: ·) (ih goes_on))

/-- Replies that end the listing are some that go on and then one that does not. -/
theorem exists_last {replies : List ListedObjects} (ends : ∃ reply ∈ replies, ¬ reply.GoesOn) :
    ∃ front last more, replies = front ++ last :: more ∧ (∀ reply ∈ front, reply.GoesOn) ∧
      ¬ last.GoesOn := by
  induction replies with
  | nil => simp at ends
  | cons reply replies ih =>
    by_cases first : reply.GoesOn
    · obtain ⟨front, last, more, rfl, goes_on, h⟩ := ih (by simpa [first] using ends)
      exact ⟨reply :: front, last, more, rfl, List.forall_mem_cons.2 ⟨first, goes_on⟩, h⟩
    · exact ⟨[], reply, replies, rfl, List.forall_mem_nil _, first⟩

/-- Replies that are given in order and end the listing are those that it consumes. -/
theorem eq_upToLast {front replies : List ListedObjects} {last : ListedObjects}
    (given : front ++ [last] <+: replies) (goes_on : ∀ reply ∈ front, reply.GoesOn)
    (stops : ¬ last.GoesOn) : front ++ [last] = upToLast replies := by
  obtain ⟨more, rfl⟩ := given
  rw [List.append_assoc]
  exact (upToLast_append goes_on stops more).symm

section Given

variable {given replies : List ListedObjects} (inOrder : given <+: replies)
  (ends : ∃ reply ∈ replies, ¬ reply.GoesOn)

include ends in
theorem goesOn_of_mem_dropLast {reply : ListedObjects} (h : reply ∈ (upToLast replies).dropLast) :
    reply.GoesOn := by
  obtain ⟨front, last, more, rfl, others, stops⟩ := exists_last ends
  rw [upToLast_append others stops, List.dropLast_concat] at h
  exact others reply h

include inOrder ends

/-- Replies that are given in order, one only if those before it go on, are among those that the
listing consumes. -/
theorem prefix_upToLast (goes_on : ∀ reply ∈ given.dropLast, reply.GoesOn) :
    given <+: upToLast replies := by
  obtain ⟨front, last, more, rfl, others, stops⟩ := exists_last ends
  rw [upToLast_append others stops]
  have whole : front ++ [last] <+: front ++ last :: more := by
    rw [List.append_cons front last more]
    exact List.prefix_append ..
  refine List.prefix_of_prefix_length_le inOrder whole (Nat.not_lt.1 fun longer => stops ?_)
  -- otherwise the last one stands before another
  obtain ⟨rest, rfl⟩ := List.prefix_of_prefix_length_le whole inOrder longer.le
  refine goes_on last ?_
  have : rest ≠ [] := fun none => by simp [none] at longer
  rw [List.dropLast_append_of_ne_nil this]
  simp

/-- If they all go on, there is more to consume. -/
theorem length_lt_upToLast (goes_on : ∀ reply ∈ given, reply.GoesOn) :
    given.length < (upToLast replies).length := by
  have among := prefix_upToLast inOrder ends fun reply h =>
    goes_on reply (List.mem_of_mem_dropLast h)
  refine among.length_le.lt_of_ne fun same => ?_
  obtain ⟨front, last, more, rfl, others, stops⟩ := exists_last ends
  rw [among.eq_of_length same, upToLast_append others stops] at goes_on
  exact stops (goes_on last (by simp))

end Given

end ListedObjects

open ListedObjects

/-! ## What a service answers -/

/-- The listing requests are answered with these replies, in order and as far as they go. -/
def Serves (replies : List ListedObjects) (calls : List ServiceExchange) : Prop :=
  calls.filterMap listing? <+: replies.map .ok

theorem serves_of_eq {replies : List ListedObjects} {calls : List ServiceExchange}
    (all : calls.filterMap listing? = replies.map .ok) : Serves replies calls := by
  rw [Serves, all]

theorem length_tokens (calls : List ServiceExchange) :
    (calls.filterMap token?).length = (calls.filterMap listing?).length := by
  rw [List.length_filterMap_eq_countP, List.length_filterMap_eq_countP]
  refine List.countP_congr fun x hx => ?_
  obtain ⟨_ | _, answer⟩ := x
  case request r => cases r <;> exact Iff.rfl
  case wait => exact Iff.rfl

/-- Listing requests are told apart by their tokens. -/
theorem map_listing {address : BucketAddress} {calls : List ServiceExchange}
    (listing : ∀ x ∈ calls, ∃ token, x.1 = .request (.listObjects address token)) :
    calls.map Sigma.fst =
      (calls.filterMap token?).map fun token => .request (.listObjects address token) := by
  induction calls with
  | nil => rfl
  | cons x calls ih =>
    obtain ⟨⟨token, h⟩, rest⟩ := List.forall_mem_cons.1 listing
    obtain ⟨_, answer⟩ := x
    cases h
    exact congrArg (_ :: ·) (ih rest)

/-- The replies that the service gave, in the calls of a run over services and in what they are for
the bucket store. -/
structure Answered (given replies : List ListedObjects) (calls : List ServiceExchange)
    (outer : List BucketExchange) : Prop where
  same : HeardAs calls outer
  listed : calls.filterMap listing? = given.map .ok
  inOrder : given <+: replies

theorem Serves.given {replies : List ListedObjects} {calls : List ServiceExchange}
    {outer : List BucketExchange} (served : Serves replies calls) (same : HeardAs calls outer) :
    ∃ given, Answered given replies calls outer := by
  obtain ⟨given, inOrder, listed⟩ := List.prefix_map_iff.1 served
  exact ⟨given, same, listed, inOrder⟩

namespace Answered

variable {given replies : List ListedObjects} {calls : List ServiceExchange}
  {outer : List BucketExchange} (h : Answered given replies calls outer)

include h

theorem pages : listedPages outer = given.map ListedObjects.page := h.same.pages h.listed

theorem listedKeys : listedKeys outer = namedKeys given := by
  rw [CloudOps.listedKeys, h.pages, List.flatMap_map]
  rfl

/-- No request fails if no delete request does. -/
theorem not_fails (accepted : ∀ x ∈ calls, x.Accepted) : ∀ y ∈ outer, ¬ y.Fails := by
  intro y hy
  obtain ⟨x, hx, heard⟩ := h.same.mem_iff.1 hy
  refine not_fails_of_heard heard (fun answer own => ?_) (accepted x hx)
  have : answer ∈ given.map .ok := h.listed ▸ List.mem_filterMap.2 ⟨x, hx, own⟩
  obtain ⟨reply, -, rfl⟩ := List.mem_map.1 this
  exact ⟨reply, rfl⟩

/-- A walk that was stopped was given too few pages. -/
theorem not_stopped {pages : Nat} (ends : ∃ reply ∈ replies, ¬ reply.GoesOn)
    (enough : (upToLast replies).length ≤ pages) (count : (listedPages outer).length = pages)
    (tokens : ∀ page ∈ listedPages outer, page.nextToken ≠ none) : False := by
  rw [h.pages, List.length_map] at count
  rw [h.pages] at tokens
  refine Nat.not_lt.2 (count ▸ enough) (length_lt_upToLast h.inOrder ends fun reply own => ?_)
  exact goesOn_of_page (tokens _ (List.mem_map_of_mem own))

section Paging

variable (paging : Paging none outer)

include paging

theorem among (ends : ∃ reply ∈ replies, ¬ reply.GoesOn) : given <+: upToLast replies := by
  refine prefix_upToLast h.inOrder ends fun reply own => ?_
  have more := paging.more
  rw [h.pages, ← List.map_dropLast] at more
  exact goesOn_of_page (more _ (List.mem_map_of_mem own))

/-- A listing that was exhausted consumed all that it could, and carried the tokens on. -/
theorem of_exhausted (exhausted : Exhausted outer) : given = upToLast replies ∧
    calls.filterMap token? = none :: (upToLast replies).dropLast.map ListedObjects.nextToken := by
  obtain ⟨pages, last', split, stops, goes_on⟩ := exhausted
  rw [h.pages] at split
  obtain ⟨front, rest, rfl, rfl, single⟩ := List.map_eq_append_iff.1 split
  obtain ⟨last, rfl, rfl⟩ := List.map_eq_singleton_iff.1 single
  have goes_on : ∀ reply ∈ front, reply.GoesOn := fun reply own =>
    goesOn_of_page (goes_on _ (List.mem_map_of_mem own))
  have all := eq_upToLast h.inOrder goes_on (page_nextToken_eq_none_iff.1 stops)
  refine ⟨all, ?_⟩
  have tokens : calls.filterMap token? <+:
      none :: (front ++ [last]).map fun reply => reply.page.nextToken := by
    have := paging.tokens
    rwa [h.same.tokens, h.pages, List.map_map] at this
  have first : none :: front.map (fun reply => reply.page.nextToken) <+:
      none :: (front ++ [last]).map fun reply => reply.page.nextToken := by
    rw [List.map_append, ← List.cons_append]
    exact List.prefix_append ..
  have count : (calls.filterMap token?).length =
      (none :: front.map fun reply => reply.page.nextToken).length := by
    rw [length_tokens, h.listed]
    simp
  rw [(List.prefix_of_prefix_length_le tokens first count.le).eq_of_length count, ← all,
    List.dropLast_concat]
  exact congrArg (none :: ·)
    (List.map_congr_left fun reply own => (goes_on reply own).page_nextToken)

end Paging

end Answered

/-! ## The laws -/

/-- What a run that lists a bucket shows when its walk consumes these replies. -/
structure ServedListing (address : BucketAddress) (replies : List ListedObjects)
    (calls : List ServiceExchange) (ending : Ending (Except Error (List String))) : Prop where
  /-- There is one request for each reply. The first carries no token, and each further one that of
  the reply before it. -/
  requests : calls.map Sigma.fst = (none :: replies.dropLast.map ListedObjects.nextToken).map
    fun token => .request (.listObjects address token)
  /-- Only a truncated reply lends its token. -/
  truncated : ∀ reply ∈ replies.dropLast, reply.truncated = some true ∧ reply.nextToken ≠ none
  /-- The result is the keys of the entries that have one, in order. -/
  returned : ending = .value (.ok (namedKeys replies))

/-- What a run that empties a bucket shows when its walk consumes these replies. -/
structure ServedEmptying (address : BucketAddress) (replies : List ListedObjects)
    (calls : List ServiceExchange) (ending : Ending (Except Error Nat)) : Prop where
  /-- There are only listing requests, and delete requests of 1 to 1000 keys. -/
  limited : ∀ x ∈ calls, (∃ token, x.1 = .request (.listObjects address token)) ∨
    ∃ keys, x.1 = .request (.deleteObjects address keys) ∧ 1 ≤ keys.length ∧ keys.length ≤ 1000
  /-- Right behind a reply without keys stands no delete request. -/
  skipped : calls.IsChain fun x y => ∀ reply, x.listing? = some (.ok reply) →
    reply.keys.filterMap id = [] → y.sent = []
  /-- The delete requests are sent the keys of the entries that have one, from the first one on. -/
  ordered : calls.flatMap sent <+: namedKeys replies
  /-- If all of them succeed, with at most as many errors as they are sent keys, they are sent all
  keys, and the listing requests are those of a listing. -/
  complete : (∀ x ∈ calls, x.Accepted) → calls.flatMap sent = namedKeys replies ∧
    calls.filterMap token? = none :: replies.dropLast.map ListedObjects.nextToken
  /-- Then the result is the number of keys, or all errors if there are any. An error without a key
  is about the empty key. -/
  returned : (∀ x ∈ calls, x.Accepted) → ending = .value
    (if calls.flatMap reported = [] then .ok (namedKeys replies).length
      else .error (.partialDelete address.bucket ((calls.flatMap reported).map fun failure =>
        ⟨failure.key.getD "", failure.code, failure.message⟩)))

section Laws

variable {service : BucketService} {pages : Nat} {bucket : String} {replies : List ListedObjects}
  {events : List (Event ServiceCall ServiceCall.Answer)} (named : bucket ≠ "")
  (ends : ∃ reply ∈ replies, ¬ reply.GoesOn) (enough : (upToLast replies).length ≤ pages)
  (served : Serves replies (Event.calls events))

include named ends enough served

theorem listObjects_served {ending : Ending (Except Error (List String))}
    (run : Run (service.run (listObjects pages bucket)).run events ending) :
    ServedListing ⟨bucket, service.addressing⟩ (upToLast replies) (Event.calls events) ending := by
  obtain ⟨outer, run, carried⟩ := (run_handle_iff service.carryOut_returns).1 run
  obtain ⟨⟨_, follows⟩, -, outcome⟩ := listObjectsFrom_ends rfl run
  have listing : ∀ y ∈ Event.calls outer, ∃ token, y.1 = .listObjectsPage bucket token :=
    follows.listing
  have no_delete : ∀ y ∈ Event.calls outer, ∀ keys, y.1 ≠ .deleteObjects bucket keys := by
    intro y hy keys deletion
    obtain ⟨token, h⟩ := listing y hy
    cases h.symm.trans deletion
  obtain ⟨same, walk⟩ := BucketService.carriedOut_walk named carried
    (fun y hy => .inl (listing y hy))
    fun y hy keys deletion => absurd deletion (no_delete y hy keys)
  have only : ∀ x ∈ Event.calls events,
      ∃ token, x.1 = .request (.listObjects ⟨bucket, service.addressing⟩ token) := by
    intro x hx
    refine (walk x hx).resolve_right fun ⟨keys, deletion⟩ => ?_
    obtain ⟨y, hy, h⟩ := same.exists_delete hx deletion
    exact no_delete y hy keys h
  obtain ⟨given, h⟩ := served.given same
  have accepted : firstRefusal? (Event.calls outer) = none := by
    refine (accepted_of_not_fails (h.not_fails fun x hx => ?_)).1
    obtain ⟨_, request⟩ := only x hx
    exact accepted_of_listing request
  have paging : Paging none (Event.calls outer) := follows.paging accepted
  match ending, outcome with
  | .value (.ok all), ⟨_, exhausted, listed⟩ =>
    obtain ⟨rfl, tokens⟩ := h.of_exhausted paging exhausted
    constructor
    case requests => rw [map_listing only, tokens]
    case truncated => exact fun reply => goesOn_of_mem_dropLast ends
    case returned => rw [listed, List.nil_append, h.listedKeys]
  | .value (.error e), refused => cases accepted.symm.trans refused
  | .halted reason, ⟨_, _, count, tokens⟩ => exact (h.not_stopped ends enough count tokens).elim

theorem emptyBucket_served {ending : Ending (Except Error Nat)}
    (run : Run (service.run (emptyBucket pages bucket)).run events ending) :
    ServedEmptying ⟨bucket, service.addressing⟩ (upToLast replies) (Event.calls events) ending := by
  obtain ⟨outer, run, carried⟩ := (run_handle_iff service.carryOut_returns).1 run
  have walk := emptyBucket_walk run
  have limited {y : BucketExchange} (hy : y ∈ Event.calls outer) {owner : String}
      {keys : List String} (deletion : y.1 = .deleteObjects owner keys) :
      1 ≤ keys.length ∧ keys.length ≤ 1000 :=
    (walk.pageWalk.limited hy deletion).2
  obtain ⟨same, requests⟩ := BucketService.carriedOut_walk named carried
    (isWalk_of_emits (emptyBucket_emits _ _ _ _ run)) fun y hy keys deletion none => by
      simpa [none] using (limited hy deletion).1
  obtain ⟨given, h⟩ := served.given same
  have emptied (accepted : ∀ x ∈ Event.calls events, ServiceExchange.Accepted x) :=
    let ⟨accepted, honest⟩ := accepted_of_not_fails (h.not_fails accepted)
    ((emptyBucket_ends run).of_accepted accepted honest).resolve_left
      fun ⟨count, tokens⟩ => h.not_stopped ends enough count tokens
  constructor
  case limited =>
    intro x hx
    refine (requests x hx).imp id fun ⟨keys, deletion⟩ => ⟨keys, deletion, ?_⟩
    obtain ⟨y, hy, own⟩ := same.exists_delete hx deletion
    exact limited hy own
  case skipped =>
    refine same.isChain (fun heard heard' skips reply listed empty => ?_) walk.pageWalk.skips
    rw [← sent_of_heard heard']
    exact skips reply.page (by rw [page?_of_heard heard, listed]; rfl) empty
  case ordered =>
    rw [← same.keys]
    refine walk.pageWalk.ordered.trans ?_
    rw [h.listedKeys]
    obtain ⟨more, whole⟩ := h.among walk.paging ends
    rw [← whole, namedKeys, namedKeys, List.flatMap_append]
    exact List.prefix_append ..
  case complete =>
    intro accepted
    obtain ⟨exhausted, sent, -⟩ := emptied accepted
    obtain ⟨rfl, tokens⟩ := h.of_exhausted walk.paging exhausted
    exact ⟨by rw [← same.keys, sent, h.listedKeys], tokens⟩
  case returned =>
    intro accepted
    obtain ⟨exhausted, -, rfl⟩ := emptied accepted
    obtain ⟨rfl, -⟩ := h.of_exhausted walk.paging exhausted
    simp only [same.failures, h.listedKeys, List.map_eq_nil_iff]
    rfl

end Laws

/-- **The replies of a service decide its walks.** A service that answers the listing requests of
two runs with the same replies lists a bucket in one and empties it in the other. -/
theorem BucketService.replies_decide_walks {service : BucketService} {pages : Nat} {bucket : String}
    {replies : List ListedObjects} {events events' : List (Event ServiceCall ServiceCall.Answer)}
    {listed : Ending (Except Error (List String))} {emptied : Ending (Except Error Nat)}
    (named : bucket ≠ "") (ends : ∃ reply ∈ replies, ¬ reply.GoesOn)
    (enough : (upToLast replies).length ≤ pages)
    (listing : Run (service.run (listObjects pages bucket)).run events listed)
    (served : Serves replies (Event.calls events))
    (emptying : Run (service.run (emptyBucket pages bucket)).run events' emptied)
    (served' : Serves replies (Event.calls events')) :
    ServedListing ⟨bucket, service.addressing⟩ (upToLast replies) (Event.calls events) listed ∧
      ServedEmptying ⟨bucket, service.addressing⟩ (upToLast replies) (Event.calls events')
        emptied :=
  ⟨listObjects_served named ends enough served listing,
    emptyBucket_served named ends enough served' emptying⟩

/-- Replies with an entry without a key, a page without entries, and a token behind the end. -/
def strayReplies : List ListedObjects :=
  [⟨[some "a", none, some "b"], some true, some "t"⟩, ⟨[], some true, some "u"⟩,
    ⟨[some "a"], none, some "stray"⟩]

/-- A reply as an answer of a script. -/
def ListedObjects.scripted (reply : ListedObjects) : ScriptedReply :=
  .parts { ReplyParts.empty with
    keys := reply.keys, truncated := reply.truncated, token := reply.nextToken }

/-- The listing of those replies. -/
def strayListing : Trace ServiceCall ServiceCall.Answer ServiceScript
    (Except Error (List String)) :=
  (BucketService.run ⟨.virtualHost, 100⟩ (listObjects 3 "photos")).run.run ServiceScript.answer
    ⟨strayReplies.map ListedObjects.scripted, []⟩

/-- The emptying by those replies, with an error of which nothing is known. -/
def strayEmptying : Trace ServiceCall ServiceCall.Answer ServiceScript (Except Error Nat) :=
  (BucketService.run ⟨.virtualHost, 100⟩ (emptyBucket 3 "photos")).run.run ServiceScript.answer
    ⟨[.parts { ReplyParts.empty with
        keys := [some "a", none, some "b"], truncated := some true, token := some "t" },
      .parts { ReplyParts.empty with failures := [⟨none, none, none⟩] },
      .parts { ReplyParts.empty with truncated := some true, token := some "u" },
      .parts { ReplyParts.empty with keys := [some "a"], token := some "stray" },
      .parts ReplyParts.empty], []⟩

theorem BucketService.replies_decide_walks_stray :
    strayListing.ending = .value (.ok ["a", "b", "a"]) ∧
      strayEmptying.ending = .value (.error (.partialDelete "photos" [⟨"", none, none⟩])) ∧
      ServedListing ⟨"photos", .virtualHost⟩ (upToLast strayReplies)
        (Event.calls strayListing.events) strayListing.ending ∧
      ServedEmptying ⟨"photos", .virtualHost⟩ (upToLast strayReplies)
        (Event.calls strayEmptying.events) strayEmptying.ending := by
  have served : Serves strayReplies (Event.calls strayListing.events) :=
    serves_of_eq (by cbv)
  have served' : Serves strayReplies (Event.calls strayEmptying.events) :=
    serves_of_eq (by cbv)
  exact ⟨by cbv, by cbv, replies_decide_walks (by decide) (by decide) (by decide)
    (run_isRun _ _ _) served (run_isRun _ _ _) served'⟩

end CloudOps
