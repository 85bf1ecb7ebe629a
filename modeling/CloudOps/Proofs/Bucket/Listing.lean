import CloudOps.Proofs.Bucket.Session
import CloudOps.Proofs.Bucket.Walk

/-!
# A listing follows the tokens of its pages

* `listObjectsFrom_ends`: what the calls of a listing show from a place on, whichever way it ends.
* `listObjectsFrom_more`: a listing that comes to an end does not depend on how many more pages it
  could have asked for.
* `listing_follows_tokens`: the requests of a listing and of a lister follow the tokens, and their
  answers alone decide what is returned.
-/

namespace CloudOps

open Program ObjectLister

/-! ## From a place on -/

/-- What the calls show when a listing through so many pages ends. -/
def ListingEnds (pages : Nat) (keys : List String) (calls : List BucketExchange) :
    Ending (Except Error (List String)) → Prop
  | .value (.ok all) =>
    firstRefusal? calls = none ∧ Exhausted calls ∧ all = keys ++ listedKeys calls
  | .value (.error e) => firstRefusal? calls = some e
  | .halted reason =>
    reason = .pagesExceeded ∧ firstRefusal? calls = none ∧ (listedPages calls).length = pages ∧
      ∀ page ∈ listedPages calls, page.nextToken ≠ none

/-- Behind a page with a token the listing goes on. -/
theorem ListingEnds.after_page {pages : Nat} {keys : List String} {bucket : String}
    {token : Option String} {page : ObjectPage} {calls : List BucketExchange}
    {ending : Ending (Except Error (List String))} (more : page.nextToken ≠ none)
    (ends : ListingEnds pages (keys ++ page.keys) calls ending) :
    ListingEnds (pages + 1) keys (⟨.listObjectsPage bucket token, .ok page⟩ :: calls) ending := by
  match ending, ends with
  | .value (.error e), refused => exact refused
  | .value (.ok all), ⟨accepted, exhausted, listed⟩ =>
    refine ⟨accepted, exhausted.of_rest rfl more, ?_⟩
    rw [listed, listedKeys_list_ok, List.append_assoc]
  | .halted reason, ⟨exceeded, accepted, count, tokens⟩ =>
    refine ⟨exceeded, accepted, ?_, List.forall_mem_cons.2 ⟨more, tokens⟩⟩
    rw [listedPages_list_ok, List.length_cons, count]

/-- What a listing shows from a place on. -/
structure ListingWalk (pages : Nat) (keys : List String) (lister : ObjectLister)
    (calls : List BucketExchange) (ending : Ending (Except Error (List String))) : Prop where
  follows : ∃ last, Follows lister calls last
  stops : StopsAt BucketExchange.Refused calls
  ends : ListingEnds pages keys calls ending

section FromPlace

variable {pages : Nat} {keys : List String} {lister : ObjectLister}
  {events : List (Event BucketCall BucketCall.Answer)}

theorem listObjectsFrom_ends {ending : Ending (Except Error (List String))}
    (fresh : lister.done = false)
    (run : Run (listObjectsFrom pages keys lister).run events ending) :
    ListingWalk pages keys lister (Event.calls events) ending := by
  induction pages generalizing keys lister events with
  | zero =>
    simp only [listObjectsFrom, fresh] at run
    obtain ⟨rfl, rfl⟩ := Action.run_halt_iff.1 run
    exact ⟨⟨lister, .stay lister⟩, stopsAt_nil, rfl, rfl, rfl, by simp [Event.calls]⟩
  | succ pages ih =>
    rcases (run_step_bind_iff fresh).1 run with ⟨e, rfl, rfl⟩ | ⟨page, rest, rfl, walk⟩
    · exact ⟨⟨_, .request (.error e) fresh (.stay _)⟩, stopsAt_singleton _, rfl⟩
    have walk : Run (listObjectsFrom pages (keys ++ page.keys) (lister.advance page)).run rest
        ending := walk
    let first : BucketExchange := ⟨.listObjectsPage lister.bucket lister.token, .ok page⟩
    have calls : Event.calls (.call (.listObjectsPage lister.bucket lister.token) (.ok page) ::
        rest) = first :: Event.calls rest := rfl
    rw [calls]
    by_cases last : page.nextToken = none
    · rw [listObjectsFrom_of_done (advance_done_iff.2 last)] at walk
      cases walk
      refine ⟨⟨_, .request (.ok page) fresh (.stay _)⟩, stopsAt_singleton _, rfl,
        exhausted_of_last rfl last, ?_⟩
      rw [Event.calls, listedKeys_list_ok, listedKeys_nil, List.append_nil]
    · obtain ⟨⟨place, follows⟩, stops, ends⟩ := ih (advance_fresh last) walk
      exact ⟨⟨place, .request (.ok page) fresh follows⟩, stops.cons (· rfl),
        ends.after_page last⟩

/-- A listing that comes to an end is the same when it may ask for more pages. -/
theorem listObjectsFrom_more {result : Except Error (List String)} (more : Nat)
    (run : Run (listObjectsFrom pages keys lister).run events (.value result)) :
    Run (listObjectsFrom (pages + more) keys lister).run events (.value result) := by
  cases done : lister.done with
  | true => rwa [listObjectsFrom_of_done done] at run ⊢
  | false =>
    induction pages generalizing keys lister events with
    | zero =>
      simp only [listObjectsFrom, done] at run
      cases (Action.run_halt_iff.1 run).2
    | succ pages ih =>
      rw [Nat.add_right_comm]
      refine (run_step_bind_iff done).2 ?_
      rcases (run_step_bind_iff done).1 run with ⟨e, rfl, h⟩ | ⟨page, rest, rfl, walk⟩
      · exact .inl ⟨e, rfl, h⟩
      · refine .inr ⟨page, rest, rfl, ?_⟩
        cases done' : (lister.advance page).done with
        | true => rwa [listObjectsFrom_of_done done'] at walk ⊢
        | false => exact ih walk done'

end FromPlace

/-! ## The laws -/

/-- What a run that lists a bucket shows. -/
structure ListingReport (pages : Nat) (bucket : String)
    (events : List (Event BucketCall BucketCall.Answer))
    (ending : Ending (Except Error (List String))) : Prop where
  /-- The requests follow the tokens. -/
  tokens : FollowsTokens bucket (Event.calls events)
  /-- Behind a request that failed there are no more. -/
  stops : StopsAt BucketExchange.Refused (Event.calls events)
  /-- The keys of all pages in order, if every request succeeded up to a page without a token. -/
  listed : ∀ keys, ending = .value (.ok keys) ↔
    firstRefusal? (Event.calls events) = none ∧ Exhausted (Event.calls events) ∧
      keys = listedKeys (Event.calls events)
  /-- The failure of the first request that failed, if there is one. -/
  failed : ∀ e, ending = .value (.error e) ↔ firstRefusal? (Event.calls events) = some e
  /-- A listing is stopped only behind as many pages as it may ask for, all of which have tokens. -/
  stopped : ∀ reason, ending = .halted reason →
    firstRefusal? (Event.calls events) = none ∧
      (listedPages (Event.calls events)).length = pages ∧
      ∀ page ∈ listedPages (Event.calls events), page.nextToken ≠ none
  /-- A listing that was not stopped is the same when it may ask for more pages. -/
  steady : ∀ result, ending = .value result → ∀ more,
    Run (listObjects (pages + more) bucket).run events (.value result)

/-- What a run shows in which a new lister is asked so many times. -/
structure SessionReport (bucket : String) (n : Nat) (calls : List BucketExchange)
    (outcome : Ending (List PageAnswer × ObjectLister)) : Prop where
  /-- The requests follow the tokens. -/
  tokens : FollowsTokens bucket calls
  /-- Every request gives its answer, and every further answer is that there are no more pages. -/
  answered : ∃ idle last, calls.length + idle = n ∧ outcome =
    .value (calls.map BucketExchange.pageAnswer ++ List.replicate idle (.ok none), last)
  /-- Behind a page without a token every further call gives none, makes no request and changes
  nothing, however often it is made. -/
  exhausted : ∀ answers last, outcome = .value (answers, last) →
    ∀ page ∈ listedPages calls, page.nextToken = none →
      ∀ m, last.session m = .done (List.replicate m (.ok none), last)

/-- **A listing follows the tokens of its pages.** The first part is about all requests of a
listing, the second about a lister that is asked so many times, whatever fails between. -/
theorem listing_follows_tokens {pages n : Nat} {bucket : String}
    {events events' : List (Event BucketCall BucketCall.Answer)}
    {ending : Ending (Except Error (List String))}
    {outcome : Ending (List PageAnswer × ObjectLister)}
    (listing : Run (listObjects pages bucket).run events ending)
    (asked : Run ((ObjectLister.start bucket).session n) events' outcome) :
    ListingReport pages bucket events ending ∧
      SessionReport bucket n (Event.calls events') outcome := by
  obtain ⟨⟨_, follows⟩, stops, ends⟩ := listObjectsFrom_ends rfl listing
  obtain ⟨answers, last, rfl⟩ := session_returns asked
  obtain ⟨follows', idle, given, count, _⟩ := session_ends asked
  constructor
  case left =>
    constructor
    case tokens => exact follows.followsTokens
    case stops => exact stops
    case listed =>
      intro keys
      match ending, ends with
      | .value (.ok all), ⟨accepted, exhausted, listed⟩ =>
        rw [List.nil_append] at listed
        simp [accepted, exhausted, listed, eq_comm]
      | .value (.error e), refused =>
        have refused : firstRefusal? (Event.calls events) = some e := refused
        simp [refused]
      | .halted reason, ⟨_, _, _, tokens⟩ => simp [not_exhausted tokens]
    case failed =>
      intro e
      match ending, ends with
      | .value (.ok all), ⟨accepted, _⟩ => simp [accepted]
      | .value (.error e'), refused =>
        have refused : firstRefusal? (Event.calls events) = some e' := refused
        simp [refused]
      | .halted reason, ⟨_, accepted, _⟩ => simp [accepted]
    case stopped =>
      rintro reason rfl
      exact ends.2
    case steady =>
      rintro result rfl more
      exact listObjectsFrom_more more listing
  case right =>
    constructor
    case tokens => exact follows'.followsTokens
    case answered => exact ⟨idle, last, count, by rw [given]⟩
    case exhausted =>
      rintro answers last h page hp final
      cases h
      exact session_of_done (follows'.done_of_mem hp final)

/-- A listing with an empty page, a token that is given twice and a key that is listed twice. -/
def photosListing : List (Event BucketCall BucketCall.Answer) :=
  [.call (.listObjectsPage "photos" none) (.ok ⟨["b"], some "t"⟩),
    .call (.listObjectsPage "photos" (some "t")) (.ok ⟨[], some "t"⟩),
    .call (.listObjectsPage "photos" (some "t")) (.ok ⟨["b", "c"], none⟩)]

theorem listing_follows_tokens_photos :
    Run (listObjects 3 "photos").run photosListing (.value (.ok ["b", "b", "c"])) ∧
      Run ((ObjectLister.start "photos").session 5) photosListing
        (.value ([.ok (some ["b"]), .ok (some []), .ok (some ["b", "c"]), .ok none, .ok none],
          ⟨"photos", none, true⟩)) ∧
      ListingReport 3 "photos" photosListing (.value (.ok ["b", "b", "c"])) ∧
      SessionReport "photos" 5 (Event.calls photosListing)
        (.value ([.ok (some ["b"]), .ok (some []), .ok (some ["b", "c"]), .ok none, .ok none],
          ⟨"photos", none, true⟩)) := by
  have listing : Run (listObjects 3 "photos").run photosListing (.value (.ok ["b", "b", "c"])) :=
    .call _ (.call _ (.call _ (.done _)))
  have asked : Run ((ObjectLister.start "photos").session 5) photosListing
      (.value ([.ok (some ["b"]), .ok (some []), .ok (some ["b", "c"]), .ok none, .ok none],
        ⟨"photos", none, true⟩)) :=
    .call _ (.call _ (.call _ (.done _)))
  exact ⟨listing, asked, listing_follows_tokens listing asked⟩

end CloudOps
