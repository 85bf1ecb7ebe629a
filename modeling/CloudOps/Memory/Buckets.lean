import CloudOps.Bucket.Operations
import CloudOps.Memory.Record
import Std.Data.ExtTreeMap

/-!
# A bucket store in memory

* `StoredBucket`: the date, the objects and the policy of a bucket. The keys of its objects are in
  ascending order.
* `BucketMemory`: named buckets, the size of a page, and what is arranged to fail.
* `BucketMemory.answer`: the answer to a call and the store after it. A call is written down, ends
  with the fault of its method if there is one, and is carried out otherwise. A body is read before
  all of that.
-/

namespace CloudOps

/-- A bucket with its objects. -/
structure StoredBucket where
  created : Option Instant
  objects : Std.ExtTreeMap String ByteArray
  policy : Option String

/-- A bucket without objects, policy and date. -/
def StoredBucket.empty : StoredBucket := ⟨none, ∅, none⟩

/-- The keys of a bucket in ascending order. -/
def StoredBucket.keys (bucket : StoredBucket) : List String := bucket.objects.keys

/-- A bucket store. -/
structure BucketMemory where
  /-- How many keys a page of a listing holds; without a size, all of them. -/
  pageSize : Option Nat
  record : CallRecord BucketMethod
  buckets : Std.ExtTreeMap String StoredBucket
  /-- The keys that cannot be deleted. -/
  denied : List String
  /-- The first page that is not served, counted over all listings from zero. -/
  failListingFrom : Option Nat
  /-- How many pages were asked for. -/
  pagesServed : Nat

namespace BucketMemory

/-- A store without buckets. -/
def empty (pageSize : Option Nat) : BucketMemory := ⟨pageSize, .empty, ∅, [], none, 0⟩

/-! ## Arranging and looking -/

/-- The store with an empty bucket of that name, whatever was there. -/
def addBucket (store : BucketMemory) (name : String) (created : Option Instant) : BucketMemory :=
  { store with buckets := store.buckets.insert name { StoredBucket.empty with created } }

/-- The store with a bucket changed, if it has one of that name. -/
def change (store : BucketMemory) (name : String) (f : StoredBucket → StoredBucket) :
    BucketMemory :=
  match store.buckets[name]? with
  | some bucket => { store with buckets := store.buckets.insert name (f bucket) }
  | none => store

/-- The store with an object in a bucket that exists. -/
def addObject (store : BucketMemory) (name key : String) (body : ByteArray) : BucketMemory :=
  store.change name fun bucket => { bucket with objects := bucket.objects.insert key body }

/-- The store in which a method fails. -/
def failOn (store : BucketMemory) (method : BucketMethod) (fault : Fault) : BucketMemory :=
  { store with record := store.record.setFault method fault }

/-- The store in which pages from a given one on are not served. -/
def failListingFromPage (store : BucketMemory) (page : Nat) : BucketMemory :=
  { store with failListingFrom := some page }

/-- The store in which a key cannot be deleted. -/
def denyDelete (store : BucketMemory) (key : String) : BucketMemory :=
  { store with denied := key :: store.denied }

/-- Whether there is a bucket of that name. -/
def hasBucket (store : BucketMemory) (name : String) : Bool := store.buckets.contains name

/-- The keys of a bucket; none if it does not exist. -/
def objectKeys (store : BucketMemory) (name : String) : List String :=
  match store.buckets[name]? with
  | some bucket => bucket.keys
  | none => []

/-- The body of an object. -/
def object? (store : BucketMemory) (name key : String) : Option ByteArray :=
  store.buckets[name]?.bind fun bucket => bucket.objects[key]?

/-- The policy of a bucket. -/
def policy? (store : BucketMemory) (name : String) : Option String :=
  store.buckets[name]?.bind fun bucket => bucket.policy

/-- Enough pages for a walk through a bucket: at most one for each of its objects, and one. -/
def pagesOf (store : BucketMemory) (name : String) : Nat := (store.objectKeys name).length + 1

/-! ## Failures -/

/-- The bucket does not exist. -/
def noSuchBucket (bucket : String) : Error :=
  .service .notFound (some "NoSuchBucket")
    (.text ("The specified bucket does not exist: " ++ bucket))

/-- The bucket exists already. -/
def alreadyOwned : Error :=
  .service .unknown (some "BucketAlreadyOwnedByYou")
    (.text ("Your previous request to create the named bucket succeeded and you already "
      ++ "own it."))

/-- The bucket still has objects. -/
def bucketNotEmpty : Error :=
  .service .unknown (some "BucketNotEmpty") (.text "The bucket you tried to delete is not empty")

/-- A wait took too long. -/
def waitExceeded : Error := .service .transient none (.text "exceeded max wait time")

/-- A page was not served. -/
def connectionReset : Error := .service .transient none (.text "connection reset")

/-- A key that may not be deleted. -/
def deniedFailure (key : String) : DeleteFailure :=
  ⟨key, some "AccessDenied", some "Access Denied"⟩

/-! ## Calls -/

/-- The keys behind a token, at most as many as a page holds. Where more keys follow, the last key
of the page is the token of the next one. -/
def page (size : Option Nat) (keys : List String) (token : Option String) : ObjectPage :=
  let remaining := keys.filter fun key => token.all (· < key)
  match size with
  | none => ⟨remaining, none⟩
  | some size =>
    let served := remaining.take size
    ⟨served, if size < remaining.length then served.getLast? else none⟩

/-- A bucket without some of its objects. -/
def removeKeys (keys : List String) (bucket : StoredBucket) : StoredBucket :=
  { bucket with objects := keys.foldl (fun objects key => objects.erase key) bucket.objects }

/-- What a call does when its method has no fault. -/
def perform (store : BucketMemory) : (c : BucketCall) → c.Answer × BucketMemory
  | .listBuckets =>
    (.ok (store.buckets.toList.map fun entry => ⟨entry.1, entry.2.created⟩), store)
  | .createBucket name =>
    if store.hasBucket name then (.error alreadyOwned, store)
    else (.ok (), store.addBucket name none)
  | .deleteBucket name =>
    match store.buckets[name]? with
    | none => (.error (noSuchBucket name), store)
    | some bucket =>
      if bucket.keys.isEmpty then (.ok (), { store with buckets := store.buckets.erase name })
      else (.error bucketNotEmpty, store)
  | .awaitPresence name => (if store.hasBucket name then .ok () else .error waitExceeded, store)
  | .awaitAbsence name => (if store.hasBucket name then .error waitExceeded else .ok (), store)
  | .listObjectsPage name token =>
    let served := { store with pagesServed := store.pagesServed + 1 }
    if store.failListingFrom.any (· ≤ store.pagesServed) then (.error connectionReset, served)
    else match store.buckets[name]? with
      | none => (.error (noSuchBucket name), served)
      | some bucket => (.ok (page store.pageSize bucket.keys token), served)
  | .deleteObjects name keys =>
    match store.buckets[name]? with
    | none => (.error (noSuchBucket name), store)
    | some _ =>
      (.ok ((keys.filter (· ∈ store.denied)).map deniedFailure),
        store.change name (removeKeys (keys.filter (· ∉ store.denied))))
  | .putBucketPolicy name text =>
    match store.buckets[name]? with
    | none => (.error (noSuchBucket name), store)
    | some _ => (.ok (), store.change name fun bucket => { bucket with policy := some text })
  | .putObject name key body =>
    match body, store.buckets[name]? with
    | .broken reason, _ => (.error (.io reason), store)
    | .whole _, none => (.error (noSuchBucket name), store)
    | .whole bytes, some _ => (.ok (), store.addObject name key bytes)

/-- The record behind a call. A body is read before its call is written down: one that breaks off
leaves nothing in the record. -/
def recordBehind (store : BucketMemory) (c : BucketCall) : CallRecord BucketMethod :=
  if c.isReadable then store.record.enter c.method else store.record

/-- The fault that a call ends with, if there is one for its method. A body that breaks off comes
before it. -/
def faultOf? (store : BucketMemory) (c : BucketCall) : Option Fault :=
  if c.isReadable then store.record.fault? c.method else none

/-- The answer to a call and the store after it. -/
def answer (c : BucketCall) (store : BucketMemory) : c.Answer × BucketMemory :=
  let entered := { store with record := store.recordBehind c }
  match store.faultOf? c with
  | some fault => (.error fault.error, entered)
  | none => entered.perform c

end BucketMemory

end CloudOps
