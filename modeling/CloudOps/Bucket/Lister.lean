import CloudOps.Bucket.Call

/-!
# Walking through the keys of a bucket

* `ObjectLister`: a place in the listing of a bucket. `ObjectLister.next` asks for the next page
  and gives the place behind it. A lister that has seen the last page stays exhausted. The token is
  given up with the request, so a lister whose request fails starts over.
* `listObjects`: the keys of all pages.

A walk gets the number of pages that it may ask for, because a store may go on giving pages for
ever.
-/

namespace CloudOps

/-- A place in the listing of a bucket. -/
structure ObjectLister where
  bucket : String
  /-- Where the next page begins; the first page has no token. -/
  token : Option String
  done : Bool
  deriving DecidableEq, Repr

namespace ObjectLister

/-- The place in front of the first page. -/
def start (bucket : String) : ObjectLister := ⟨bucket, none, false⟩

/-- The place behind a page. -/
def advance (lister : ObjectLister) (page : ObjectPage) : ObjectLister :=
  { lister with token := page.nextToken, done := page.nextToken.isNone }

/-- The place after a request that failed. -/
def dropToken (lister : ObjectLister) : ObjectLister := { lister with token := none }

/-- The next page of keys, or none when there are no more, and the place behind it. -/
def next (lister : ObjectLister) :
    BucketProgram (Except Error (Option (List String)) × ObjectLister) :=
  if lister.done then .done (.ok none, lister)
  else .call (.listObjectsPage lister.bucket lister.token) fun
    | .ok page => .done (.ok (some page.keys), lister.advance page)
    | .error e => .done (.error e, lister.dropToken)

/-- The next page as a step of an operation. -/
def step (lister : ObjectLister) : BucketAction (Option (List String) × ObjectLister) :=
  ExceptT.mk <| do
    match ← lister.next with
    | (.ok page, after) => return .ok (page, after)
    | (.error e, _) => return .error e

/-- An exhausted lister makes no call and stays exhausted. -/
theorem next_of_done {lister : ObjectLister} (h : lister.done = true) :
    lister.next = .done (.ok none, lister) := by
  simp [next, h]

@[simp] theorem advance_bucket (lister : ObjectLister) (page : ObjectPage) :
    (lister.advance page).bucket = lister.bucket := rfl

/-- A page without a token is the last one. -/
theorem advance_done_iff {lister : ObjectLister} {page : ObjectPage} :
    (lister.advance page).done = true ↔ page.nextToken = none := by
  simp [advance]

end ObjectLister

/-- The keys from a place on, put behind those listed before, with at most so many pages. -/
def listObjectsFrom : Nat → List String → ObjectLister → BucketAction (List String)
  | 0, keys, lister => if lister.done then return keys else Action.halt .pagesExceeded
  | pages + 1, keys, lister => do
    match ← lister.step with
    | (none, _) => return keys
    | (some page, after) => listObjectsFrom pages (keys ++ page) after

/-- All keys of a bucket, page by page. -/
def listObjects (pages : Nat) (bucket : String) : BucketAction (List String) :=
  listObjectsFrom pages [] (.start bucket)

end CloudOps
