import CloudOps.Proofs.Program.Actions
import CloudOps.Service.Databases

/-!
# Listings of the database service

* `Turn`: a request for a page and the answer to it. `turns` pairs the answers of a listing with
  the markers of their requests, and `Turn.GoesOn` says that another request follows.
* `PagedListing`: what happens while entries are listed, and how the listing ends.
* `DatabaseService.listings_lossless`: the runs of both listings are exactly of this kind.
-/

namespace CloudOps

open Program

/-! ## Turns -/

/-- What a request for a page gives. -/
abbrev MarkedAnswer (α : Type) := Except RequestFailure (MarkedPage α)

/-- A request for a page and the answer to it. -/
structure Turn (α : Type) where
  /-- The marker that the request carries. -/
  sent : Option String
  answer : MarkedAnswer α

variable {α γ : Type}

/-- Another request follows: the page has a marker, which is not empty and not the one that was
just sent. -/
def Turn.GoesOn (turn : Turn α) : Prop :=
  ∃ page marker, turn.answer = .ok page ∧ page.marker = some marker ∧ marker ≠ "" ∧
    turn.sent ≠ some marker

/-- The marker of an answer, if it is a page that has one. -/
def givenMarker? : MarkedAnswer α → Option String
  | .ok page => page.marker
  | .error _ => none

/-- The turns of a listing: the first request carries the marker `sent`, and each further one that
of the page before it. -/
def turns : Option String → List (MarkedAnswer α) → List (Turn α)
  | _, [] => []
  | sent, answer :: more => ⟨sent, answer⟩ :: turns (givenMarker? answer) more

theorem next?_eq_some_iff {page : MarkedPage α} {sent : Option String} {marker : String} :
    page.next? sent = some marker ↔
      page.marker = some marker ∧ marker ≠ "" ∧ sent ≠ some marker := by
  unfold MarkedPage.next?
  cases page.marker with
  | none => simp
  | some own =>
    by_cases last : own.isEmpty ∨ sent = some own
    · simp only [if_pos last, reduceCtorEq, Option.some.injEq, false_iff]
      rintro ⟨rfl, filled, new⟩
      exact last.elim (fun empty => filled (by simpa using empty)) new
    · simp only [if_neg last, Option.some.injEq]
      constructor
      · rintro rfl
        exact ⟨rfl, fun empty => last (.inl (by simp [empty])), fun same => last (.inr same)⟩
      · exact And.left

theorem goesOn_page_iff {page : MarkedPage α} {sent : Option String} :
    (⟨sent, .ok page⟩ : Turn α).GoesOn ↔ ∃ marker, page.next? sent = some marker := by
  simp only [next?_eq_some_iff]
  constructor
  · rintro ⟨_, marker, own, next⟩
    cases own
    exact ⟨marker, next⟩
  · rintro ⟨marker, next⟩
    exact ⟨page, marker, rfl, next⟩

theorem givenMarker?_page {page : MarkedPage α} {sent : Option String} {marker : String}
    (next : page.next? sent = some marker) : givenMarker? (.ok page) = some marker :=
  (next?_eq_some_iff.1 next).1

/-- The turns from a page on behind which the listing goes on. -/
theorem turns_page {page : MarkedPage α} {sent : Option String} {marker : String}
    {answers : List (MarkedAnswer α)} (next : page.next? sent = some marker) :
    turns sent (.ok page :: answers) = ⟨sent, .ok page⟩ :: turns (some marker) answers := by
  rw [turns, givenMarker?_page next]

theorem not_goesOn_error {failure : RequestFailure} {sent : Option String} :
    ¬ (⟨sent, .error failure⟩ : Turn α).GoesOn := by
  rintro ⟨_, _, answer, -⟩
  cases answer

/-! ## Listings -/

/-- What happens while entries are listed from the marker `sent` on, with at most so many requests.
`ask` is the event of a turn, and `finish` makes the result of the entries. -/
structure PagedListing (ask : Turn α → Event ServiceCall ServiceCall.Answer) (finish : List α → γ)
    (pages : Nat) (sent : Option String) (answers : List (MarkedAnswer α))
    (events : List (Event ServiceCall ServiceCall.Answer)) (ending : Ending (Except Error γ)) :
    Prop where
  /-- There is one request for each answer, and nothing else happens. -/
  requested : events = (turns sent answers).map ask
  limited : answers.length ≤ pages
  /-- Nothing is requested behind a last page or a failure. -/
  continued : ∀ turn ∈ (turns sent answers).dropLast, turn.GoesOn
  /-- When a last page was reached and no request failed, the result holds the entries of all
  pages, in order. -/
  listed : ∀ given : List (MarkedPage α), answers = given.map .ok →
    (∃ turn ∈ turns sent answers, ¬ turn.GoesOn) →
    ending = .value (.ok (finish (given.flatMap MarkedPage.entries)))
  /-- A failed request is the result, whatever was listed before it. -/
  failed : ∀ failure, .error failure ∈ answers → ending = .value (.error failure.error)
  /-- A listing that reaches no last page stops when no further request is allowed. -/
  stopped : (∀ turn ∈ turns sent answers, turn.GoesOn) →
    answers.length = pages ∧ ending = .halted .pagesExceeded

section Shapes

variable {ask : Turn α → Event ServiceCall ServiceCall.Answer} {finish : List α → γ} {pages : Nat}
  {sent : Option String} {events : List (Event ServiceCall ServiceCall.Answer)}
  {ending : Ending (Except Error γ)}

/-- The first request failed. -/
theorem PagedListing.refused (failure : RequestFailure) :
    PagedListing ask finish (pages + 1) sent [.error failure] [ask ⟨sent, .error failure⟩]
      (.value (.error failure.error)) where
  requested := rfl
  limited := Nat.le_add_left 1 pages
  continued := List.forall_mem_nil _
  listed given answers := by cases given <;> cases answers
  failed := by simp
  stopped all := absurd (all _ (List.mem_singleton_self _)) not_goesOn_error

/-- The first page is the last one. -/
theorem PagedListing.last {page : MarkedPage α} (last : page.next? sent = none) :
    PagedListing ask finish (pages + 1) sent [.ok page] [ask ⟨sent, .ok page⟩]
      (.value (.ok (finish page.entries))) where
  requested := rfl
  limited := Nat.le_add_left 1 pages
  continued := List.forall_mem_nil _
  listed given answers := by
    obtain ⟨_, rfl, same⟩ := List.map_eq_singleton_iff.1 answers.symm
    cases same
    simp
  failed := by simp
  stopped all := by
    obtain ⟨marker, next⟩ := goesOn_page_iff.1 (all _ (List.mem_singleton_self _))
    cases last.symm.trans next

/-- There is a page, and the listing goes on behind it. -/
theorem PagedListing.more {page : MarkedPage α} {marker : String}
    {answers : List (MarkedAnswer α)} (next : page.next? sent = some marker)
    (rest : PagedListing ask (fun entries => finish (page.entries ++ entries)) pages (some marker)
      answers events ending) :
    PagedListing ask finish (pages + 1) sent (.ok page :: answers) (ask ⟨sent, .ok page⟩ :: events)
      ending := by
  have first : (⟨sent, .ok page⟩ : Turn α).GoesOn := goesOn_page_iff.2 ⟨marker, next⟩
  have all_turns : turns sent (.ok page :: answers) =
      ⟨sent, .ok page⟩ :: turns (some marker) answers := turns_page next
  constructor
  case requested => rw [all_turns, List.map_cons, rest.requested]
  case limited => exact Nat.succ_le_succ rest.limited
  case continued =>
    rw [all_turns]
    cases tail : turns (some marker) answers with
    | nil => exact List.forall_mem_nil _
    | cons turn more =>
      rw [List.dropLast_cons_of_ne_nil (List.cons_ne_nil _ _), ← tail]
      exact List.forall_mem_cons.2 ⟨first, rest.continued⟩
  case listed =>
    rintro given same ⟨turn, among, stops⟩
    obtain ⟨_, given, rfl, own, rfl⟩ := List.map_eq_cons_iff.1 same.symm
    cases own
    rw [all_turns] at among
    rcases List.mem_cons.1 among with rfl | among
    · exact absurd first stops
    · rw [rest.listed given rfl ⟨turn, among, stops⟩, List.flatMap_cons]
  case failed =>
    intro failure among
    rcases List.mem_cons.1 among with own | among
    · cases own
    · exact rest.failed failure among
  case stopped =>
    intro all
    rw [all_turns] at all
    obtain ⟨count, ends⟩ := rest.stopped (List.forall_mem_cons.1 all).2
    exact ⟨congrArg (· + 1) count, ends⟩

/-- A listing behind its first page. -/
theorem PagedListing.rest {page : MarkedPage α} {marker : String} {answers : List (MarkedAnswer α)}
    (next : page.next? sent = some marker)
    (listing : PagedListing ask finish (pages + 1) sent (.ok page :: answers) events ending) :
    PagedListing ask (fun entries => finish (page.entries ++ entries)) pages (some marker) answers
      ((turns (some marker) answers).map ask) ending := by
  have first : (⟨sent, .ok page⟩ : Turn α).GoesOn := goesOn_page_iff.2 ⟨marker, next⟩
  have tail : turns sent (.ok page :: answers) = ⟨sent, .ok page⟩ :: turns (some marker) answers :=
    turns_page next
  constructor
  case requested => rfl
  case limited => exact Nat.le_of_succ_le_succ listing.limited
  case continued =>
    intro turn among
    refine listing.continued turn ?_
    rw [tail, List.dropLast_cons_of_ne_nil (List.ne_nil_of_mem (List.dropLast_subset _ among))]
    exact List.mem_cons_of_mem _ among
  case listed =>
    rintro given rfl ⟨turn, among, stops⟩
    refine listing.listed (page :: given) rfl ⟨turn, ?_, stops⟩
    rw [tail]
    exact List.mem_cons_of_mem _ among
  case failed => exact fun failure among => listing.failed failure (List.mem_cons_of_mem _ among)
  case stopped =>
    intro all
    obtain ⟨count, ends⟩ := listing.stopped (tail ▸ List.forall_mem_cons.2 ⟨first, all⟩)
    exact ⟨Nat.succ.inj count, ends⟩

/-- Without any request allowed, nothing happens. -/
theorem exists_pagedListing_zero_iff :
    (∃ answers, PagedListing ask finish 0 sent answers events ending) ↔
      events = [] ∧ ending = .halted .pagesExceeded := by
  constructor
  · rintro ⟨answers, listing⟩
    obtain rfl : answers = [] := List.length_eq_zero_iff.1 (Nat.le_zero.1 listing.limited)
    exact ⟨listing.requested, (listing.stopped (List.forall_mem_nil _)).2⟩
  · rintro ⟨rfl, rfl⟩
    exact ⟨[], rfl, Nat.le_refl 0, List.forall_mem_nil _, by simp [turns], by simp,
      fun _ => ⟨rfl, rfl⟩⟩

/-- With a request allowed, there is a first answer, and it decides whether there are more. -/
theorem exists_pagedListing_succ_iff :
    (∃ answers, PagedListing ask finish (pages + 1) sent answers events ending) ↔
      ∃ answer rest, events = ask ⟨sent, answer⟩ :: rest ∧
        match answer with
        | .error failure => rest = [] ∧ ending = .value (.error failure.error)
        | .ok page =>
          match page.next? sent with
          | none => rest = [] ∧ ending = .value (.ok (finish page.entries))
          | some marker => ∃ answers,
            PagedListing ask (fun entries => finish (page.entries ++ entries)) pages (some marker)
              answers rest ending := by
  constructor
  · rintro ⟨_ | ⟨answer, more⟩, listing⟩
    · cases (listing.stopped (List.forall_mem_nil _)).1
    refine ⟨answer, (turns (givenMarker? answer) more).map ask, listing.requested, ?_⟩
    -- behind an answer that does not go on there is none
    have single (stops : ¬ (⟨sent, answer⟩ : Turn α).GoesOn) : more = [] := by
      cases more with
      | nil => rfl
      | cons next more => exact absurd (listing.continued _ (List.mem_cons_self ..)) stops
    cases answer with
    | error failure =>
      cases single not_goesOn_error
      exact ⟨rfl, listing.failed failure (List.mem_singleton_self _)⟩
    | ok page =>
      dsimp only
      cases next : page.next? sent with
      | none =>
        have stops : ¬ (⟨sent, .ok page⟩ : Turn α).GoesOn := by simp [goesOn_page_iff, next]
        cases single stops
        refine ⟨rfl, ?_⟩
        simpa using listing.listed [page] rfl ⟨_, List.mem_singleton_self _, stops⟩
      | some marker =>
        rw [givenMarker?_page next]
        exact ⟨more, listing.rest next⟩
  · rintro ⟨answer, rest, rfl, behind⟩
    cases answer with
    | error failure =>
      obtain ⟨rfl, rfl⟩ := behind
      exact ⟨_, .refused failure⟩
    | ok page =>
      dsimp only at behind
      cases next : page.next? sent with
      | none =>
        rw [next] at behind
        obtain ⟨rfl, rfl⟩ := behind
        exact ⟨_, .last next⟩
      | some marker =>
        rw [next] at behind
        obtain ⟨answers, listing⟩ := behind
        exact ⟨_, .more next listing⟩

end Shapes

/-! ## Runs -/

theorem run_send_iff {r : ServiceRequest} {events : List (Event ServiceCall ServiceCall.Answer)}
    {ending : Ending (Except Error r.Reply)} :
    Run r.send.run events ending ↔ ∃ answer : Except RequestFailure r.Reply,
      events = [.call (.request r) answer] ∧
        ending = .value (answer.mapError RequestFailure.error) := by
  constructor
  · intro run
    cases run with
    | call answer rest =>
      obtain ⟨rfl, rfl⟩ := run_done_iff.1 rest
      exact ⟨answer, rfl, rfl⟩
  · rintro ⟨answer, rfl, rfl⟩
    exact Run.call (R := ServiceCall.Answer) (c := .request r) answer (.done _)

namespace DatabaseService

/-- Each page is fetched by one request, and `ask` is the event of its turn. -/
def FetchedBy (ask : Turn α → Event ServiceCall ServiceCall.Answer)
    (fetch : Option String → ServiceAction (MarkedPage α)) : Prop :=
  ∀ sent events ending, Run (fetch sent).run events ending ↔ ∃ answer : MarkedAnswer α,
    events = [ask ⟨sent, answer⟩] ∧ ending = .value (answer.mapError RequestFailure.error)

section Fetched

variable {ask : Turn α → Event ServiceCall ServiceCall.Answer}
  {fetch : Option String → ServiceAction (MarkedPage α)} (fetched : FetchedBy ask fetch)
  {sent : Option String} {events : List (Event ServiceCall ServiceCall.Answer)}
  {ending : Ending (Except Error γ)}

include fetched

/-- An operation that fetches a page first: it ends when the request fails. -/
theorem FetchedBy.run_bind_iff {f : MarkedPage α → ServiceAction γ} :
    Run (fetch sent >>= f).run events ending ↔ ∃ answer rest, events = ask ⟨sent, answer⟩ :: rest ∧
      match answer with
      | .error failure => rest = [] ∧ ending = .value (.error failure.error)
      | .ok page => Run (f page).run rest ending := by
  rw [Action.run_bind_iff]
  simp only [fetched _ _ _]
  constructor
  · rintro (⟨_, ⟨_, -, halted⟩, -⟩ | ⟨_, ⟨answer, rfl, failed⟩, rfl⟩ |
      ⟨page, _, rest, ⟨answer, rfl, given⟩, later, rfl⟩)
    · cases halted
    · cases answer with
      | error failure =>
        cases failed
        exact ⟨_, [], rfl, rfl, rfl⟩
      | ok page => cases failed
    · cases answer with
      | error failure => cases given
      | ok page =>
        cases given
        exact ⟨.ok page, rest, rfl, later⟩
  · rintro ⟨answer, rest, rfl, behind⟩
    cases answer with
    | error failure =>
      obtain ⟨rfl, rfl⟩ := behind
      exact .inr (.inl ⟨failure.error, ⟨_, rfl, rfl⟩, rfl⟩)
    | ok page => exact .inr (.inr ⟨page, _, rest, ⟨.ok page, rfl, rfl⟩, behind, rfl⟩)

/-- The runs of a listing, by the number of requests that are allowed. -/
theorem run_entriesFrom_iff {finish : List α → γ} {pages : Nat} {before : List α} :
    Run (do return finish (← entriesFrom fetch pages before sent)).run events ending ↔
      ∃ answers, PagedListing ask (fun entries => finish (before ++ entries)) pages sent answers
        events ending := by
  -- what was listed before goes into `finish`, so that the rest of the listing is one of its own
  induction pages generalizing before sent events with
  | zero =>
    rw [exists_pagedListing_zero_iff]
    exact Action.run_halt_iff
  | succ pages ih =>
    rw [exists_pagedListing_succ_iff, entriesFrom, LawfulMonad.bind_assoc, fetched.run_bind_iff]
    refine exists_congr fun answer => exists_congr fun rest => and_congr_right fun _ => ?_
    cases answer with
    | error failure => rfl
    | ok page =>
      dsimp only
      cases page.next? sent with
      | none => exact Action.run_pure_iff
      | some marker => simp only [ih, List.append_assoc]

end Fetched

/-- The event of a request for parameter groups. -/
def askGroups (turn : Turn ListedGroup) : Event ServiceCall ServiceCall.Answer :=
  .call (.request (.describeParameterGroups turn.sent)) turn.answer

/-- The event of a request for clusters. -/
def askClusters (turn : Turn Cluster) : Event ServiceCall ServiceCall.Answer :=
  .call (.request (.describeClusters turn.sent)) turn.answer

theorem groupPage_fetched : FetchedBy askGroups groupPage := fun _ _ _ => run_send_iff

theorem clusterPage_fetched : FetchedBy askClusters clusterPage := fun _ _ _ => run_send_iff

theorem run_listParameterGroups (pages : Nat) : run pages listParameterGroups =
    do return (← entriesFrom groupPage pages [] none).map ListedGroup.group :=
  bind_done _

theorem run_describeClusters (pages : Nat) :
    run pages CloudOps.describeClusters = entriesFrom clusterPage pages [] none :=
  bind_done _

/-- **Listings lose nothing**, whatever the service answers. A missing name, family or description
of a parameter group is empty, and clusters are as they were answered. -/
theorem listings_lossless (pages : Nat) (events : List (Event ServiceCall ServiceCall.Answer)) :
    (∀ ending, Run (run pages listParameterGroups).run events ending ↔
      ∃ answers, PagedListing askGroups
        (List.map fun group =>
          ⟨group.name.getD "", group.family.getD "", group.description.getD ""⟩)
        pages none answers events ending) ∧
    ∀ ending, Run (run pages CloudOps.describeClusters).run events ending ↔
      ∃ answers, PagedListing askClusters id pages none answers events ending := by
  constructor
  case left =>
    intro ending
    rw [run_listParameterGroups]
    exact run_entriesFrom_iff groupPage_fetched
  case right =>
    intro ending
    rw [run_describeClusters, ← bind_pure (entriesFrom _ _ _ _)]
    exact run_entriesFrom_iff clusterPage_fetched

end DatabaseService

end CloudOps
