import CloudOps.Bucket.Operations
import CloudOps.Proofs.Program.Actions

/-!
# What the calls of a run show

A run is looked at from outside, through its calls and their answers.

* `listedPages`, `listedKeys`, `requestedTokens`: what the listing requests gave, and the tokens
  that they carried.
* `sentKeys`, `reportedFailures`: what the delete requests were sent, and which keys they reported
  as not deleted.
* `firstRefusal?`: the first listing or delete request that failed as a whole.
* `StopsAt`: nothing comes behind a call of some kind, such as one that was refused.
* `Exhausted`: the listing went up to its first page without a token, and no further.
* `Honest`: no delete request reported more keys than it was sent.
-/

namespace CloudOps

/-- A call and the answer to it. -/
abbrev BucketExchange := (c : BucketCall) × c.Answer

namespace BucketExchange

/-- The page that a listing request gave. -/
def page? : BucketExchange → Option ObjectPage
  | ⟨.listObjectsPage _ _, .ok page⟩ => some page
  | _ => none

/-- The token that a listing request carries. -/
def token? : BucketExchange → Option (Option String)
  | ⟨.listObjectsPage _ token, _⟩ => some token
  | _ => none

/-- The keys that a delete request was sent. -/
def sent : BucketExchange → List String
  | ⟨.deleteObjects _ keys, _⟩ => keys
  | _ => []

/-- What a delete request reported. -/
def reported : BucketExchange → List DeleteFailure
  | ⟨.deleteObjects _ _, .ok failures⟩ => failures
  | _ => []

/-- The failure of a listing or delete request as a whole. -/
def refusal? : BucketExchange → Option Error
  | ⟨.listObjectsPage _ _, .error e⟩ => some e
  | ⟨.deleteObjects _ _, .error e⟩ => some e
  | _ => none

/-- The listing or delete request was refused. -/
def Refused (x : BucketExchange) : Prop := x.refusal? ≠ none

/-- The exchange is a request to list or delete objects of the bucket. -/
def IsWalk (bucket : String) (x : BucketExchange) : Prop :=
  (∃ token, x.1 = .listObjectsPage bucket token) ∨ ∃ keys, x.1 = .deleteObjects bucket keys

/-- The exchange reports more failures than it was sent keys. -/
def Overreports (x : BucketExchange) : Prop := x.sent.length < x.reported.length

instance (x : BucketExchange) : Decidable x.Overreports := inferInstanceAs (Decidable (_ < _))

end BucketExchange

/-- The pages of the listing, in order. -/
def listedPages (calls : List BucketExchange) : List ObjectPage :=
  calls.filterMap BucketExchange.page?

/-- The keys of all pages, in order. -/
def listedKeys (calls : List BucketExchange) : List String :=
  (listedPages calls).flatMap ObjectPage.keys

/-- The tokens of all listing requests, in order. -/
def requestedTokens (calls : List BucketExchange) : List (Option String) :=
  calls.filterMap BucketExchange.token?

/-- The keys of all delete requests, in order. -/
def sentKeys (calls : List BucketExchange) : List String := calls.flatMap BucketExchange.sent

/-- The failures of all delete requests, in order. -/
def reportedFailures (calls : List BucketExchange) : List DeleteFailure :=
  calls.flatMap BucketExchange.reported

/-- The failure of the first listing or delete request that failed. -/
def firstRefusal? (calls : List BucketExchange) : Option Error :=
  calls.findSome? BucketExchange.refusal?

/-- Behind such a call there are no more calls. -/
def StopsAt (P : BucketExchange → Prop) (calls : List BucketExchange) : Prop :=
  ∀ before x rest, calls = before ++ x :: rest → P x → rest = []

/-- The last page has no token, and every page before it has one. -/
def Exhausted (calls : List BucketExchange) : Prop :=
  ∃ front last, listedPages calls = front ++ [last] ∧ last.nextToken = none ∧
    ∀ page ∈ front, page.nextToken ≠ none

/-- No delete request reports more failures than it was sent keys. -/
def Honest (calls : List BucketExchange) : Prop := ∀ x ∈ calls, ¬ x.Overreports

instance (calls : List BucketExchange) : Decidable (Honest calls) :=
  inferInstanceAs (Decidable (∀ x ∈ calls, ¬ x.Overreports))

section Append

variable (before after : List BucketExchange)

@[simp] theorem listedPages_append :
    listedPages (before ++ after) = listedPages before ++ listedPages after :=
  List.filterMap_append

@[simp] theorem listedKeys_append :
    listedKeys (before ++ after) = listedKeys before ++ listedKeys after := by
  simp [listedKeys]

@[simp] theorem requestedTokens_append :
    requestedTokens (before ++ after) = requestedTokens before ++ requestedTokens after :=
  List.filterMap_append

@[simp] theorem sentKeys_append :
    sentKeys (before ++ after) = sentKeys before ++ sentKeys after :=
  List.flatMap_append

@[simp] theorem reportedFailures_append :
    reportedFailures (before ++ after) = reportedFailures before ++ reportedFailures after :=
  List.flatMap_append

theorem firstRefusal?_append :
    firstRefusal? (before ++ after) = (firstRefusal? before).or (firstRefusal? after) :=
  List.findSome?_append

theorem firstRefusal?_append_of_none {before : List BucketExchange}
    (h : firstRefusal? before = none) (after : List BucketExchange) :
    firstRefusal? (before ++ after) = firstRefusal? after := by
  rw [firstRefusal?_append, h, Option.none_or]

end Append

section Cons

variable (bucket : String) (token : Option String) (keys : List String)
  (calls : List BucketExchange)

@[simp] theorem listedPages_nil : listedPages [] = [] := rfl
@[simp] theorem listedKeys_nil : listedKeys [] = [] := rfl
@[simp] theorem requestedTokens_nil : requestedTokens [] = [] := rfl
@[simp] theorem sentKeys_nil : sentKeys [] = [] := rfl
@[simp] theorem reportedFailures_nil : reportedFailures [] = [] := rfl

@[simp] theorem listedPages_list_ok (page : ObjectPage) :
    listedPages (⟨.listObjectsPage bucket token, .ok page⟩ :: calls) =
      page :: listedPages calls := rfl
@[simp] theorem listedKeys_list_ok (page : ObjectPage) :
    listedKeys (⟨.listObjectsPage bucket token, .ok page⟩ :: calls) =
      page.keys ++ listedKeys calls := rfl
@[simp] theorem requestedTokens_list (answer) :
    requestedTokens (⟨.listObjectsPage bucket token, answer⟩ :: calls) =
      token :: requestedTokens calls := rfl
@[simp] theorem sentKeys_list (answer) :
    sentKeys (⟨.listObjectsPage bucket token, answer⟩ :: calls) = sentKeys calls := rfl
@[simp] theorem sentKeys_delete (answer) :
    sentKeys (⟨.deleteObjects bucket keys, answer⟩ :: calls) = keys ++ sentKeys calls := rfl
@[simp] theorem reportedFailures_delete_ok (failures : List DeleteFailure) :
    reportedFailures (⟨.deleteObjects bucket keys, .ok failures⟩ :: calls) =
      failures ++ reportedFailures calls := rfl

end Cons

/-- A listing whose first page has no token ends with it. -/
theorem exhausted_of_last {calls : List BucketExchange} {page : ObjectPage}
    (h : listedPages calls = [page]) (last : page.nextToken = none) : Exhausted calls :=
  ⟨[], page, h, last, by simp⟩

/-- A listing whose pages all have tokens is not exhausted. -/
theorem not_exhausted {calls : List BucketExchange}
    (tokens : ∀ page ∈ listedPages calls, page.nextToken ≠ none) : ¬ Exhausted calls := by
  rintro ⟨front, last, pages, none, -⟩
  exact tokens last (by simp [pages]) none

/-- A listing whose first page has a token is exhausted when the rest is. -/
theorem Exhausted.of_rest {calls rest : List BucketExchange} {page : ObjectPage}
    (h : Exhausted rest) (pages : listedPages calls = page :: listedPages rest)
    (more : page.nextToken ≠ none) : Exhausted calls := by
  obtain ⟨front, last, hr, hl, hf⟩ := h
  refine ⟨page :: front, last, by rw [pages, hr, List.cons_append], hl, ?_⟩
  intro p hp
  rcases List.mem_cons.1 hp with rfl | hp
  · exact more
  · exact hf p hp

section StopsAt

variable {P : BucketExchange → Prop}

theorem stopsAt_nil : StopsAt P [] := by
  intro before x rest h
  simp at h

theorem stopsAt_singleton (x : BucketExchange) : StopsAt P [x] := by
  rintro (_ | ⟨y, before⟩) x' rest h _
  · exact (List.cons.inj h).2.symm
  · simp at h

/-- Other calls may stand in front. -/
theorem StopsAt.append {before rest : List BucketExchange} (other : ∀ x ∈ before, ¬ P x)
    (stops : StopsAt P rest) : StopsAt P (before ++ rest) := by
  intro front x last h hx
  rcases List.append_eq_append_iff.1 h with ⟨own, -, split⟩ | ⟨own, rfl, split⟩
  · exact stops own x last split hx
  · cases own with
    | nil => exact stops [] x last split.symm hx
    | cons y own =>
      obtain ⟨rfl, -⟩ := List.cons.inj split
      exact absurd hx (other x (by simp))

theorem StopsAt.cons {x : BucketExchange} {rest : List BucketExchange} (other : ¬ P x)
    (stops : StopsAt P rest) : StopsAt P (x :: rest) :=
  show StopsAt P ([x] ++ rest) from .append (List.forall_mem_singleton.2 other) stops

end StopsAt

theorem honest_append {before after : List BucketExchange} :
    Honest (before ++ after) ↔ Honest before ∧ Honest after := by
  simp only [Honest, List.mem_append]
  exact ⟨fun h => ⟨fun x hx => h x (.inl hx), fun x hx => h x (.inr hx)⟩,
    fun h x hx => hx.elim (h.1 x) (h.2 x)⟩

end CloudOps
