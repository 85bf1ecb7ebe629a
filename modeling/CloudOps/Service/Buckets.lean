import CloudOps.Bucket.Operations
import CloudOps.Service.Request

/-!
# The bucket service

`BucketService.carryOut` carries out the calls of a bucket store by requests. A request that cannot
be built is not sent: a bucket and an object need a name.
-/

namespace CloudOps

/-- How a client of the bucket service is set up. -/
structure BucketService where
  addressing : Addressing
  /-- How many seconds a wait may last. -/
  maxWait : UInt64
  deriving DecidableEq, Repr

/-- A bucket of a listing. A date that is out of range is no date. -/
def ListedBucket.summary (bucket : ListedBucket) : BucketSummary :=
  ⟨bucket.name.getD "",
    bucket.created.bind fun moment => Instant.ofEpoch? moment.seconds moment.nanos⟩

/-- A page of a listing. Entries without a key are left out, and a token counts only when the
listing goes on. -/
def ListedObjects.page (objects : ListedObjects) : ObjectPage :=
  ⟨objects.keys.filterMap id, if objects.truncated.getD false then objects.nextToken else none⟩

/-- A failed deletion. -/
def ListedFailure.failure (failure : ListedFailure) : DeleteFailure :=
  ⟨failure.key.getD "", failure.code, failure.message⟩

namespace BucketService

/-- The request cannot be built because something has no name. -/
def unnamed (what : String) : RequestFailure := .construction (what ++ " was not set")

/-- The address of a bucket with a name. -/
def address? (service : BucketService) (bucket : String) : Except RequestFailure BucketAddress :=
  if bucket.isEmpty then .error (unnamed "bucket") else .ok ⟨bucket, service.addressing⟩

/-- An operation on a bucket with a name. -/
def withAddress {α : Type} (service : BucketService) (bucket : String)
    (action : BucketAddress → ServiceAction α) : ServiceAction α :=
  match service.address? bucket with
  | .ok address => action address
  | .error failure => throw failure.error

/-- A wait for a bucket with a name. -/
def await (service : BucketService) (presence : Presence) (bucket : String) :
    ServiceAction Unit :=
  match service.address? bucket with
  | .ok address => awaitBucket presence address service.maxWait
  | .error failure => throw (WaitFailure.request failure).error

/-- A call of a bucket store as an operation over services. -/
def perform (service : BucketService) : (c : BucketCall) → ServiceAction c.Result
  | .listBuckets => do
    let buckets : List ListedBucket ← ServiceRequest.listBuckets.send
    return buckets.map ListedBucket.summary
  | .createBucket bucket =>
    service.withAddress bucket fun address => (ServiceRequest.createBucket address).send
  | .deleteBucket bucket =>
    service.withAddress bucket fun address => (ServiceRequest.deleteBucket address).send
  | .awaitPresence bucket => service.await .present bucket
  | .awaitAbsence bucket => service.await .absent bucket
  | .listObjectsPage bucket token =>
    service.withAddress bucket fun address => do
      let objects : ListedObjects ← (ServiceRequest.listObjects address token).send
      return objects.page
  | .deleteObjects bucket keys =>
    if keys.isEmpty then (pure [] : ServiceAction (List DeleteFailure))
    else service.withAddress bucket fun address => do
      let failures : List ListedFailure ← (ServiceRequest.deleteObjects address keys).send
      return failures.map ListedFailure.failure
  | .putBucketPolicy bucket text =>
    service.withAddress bucket fun address => (ServiceRequest.putBucketPolicy address text).send
  | .putObject bucket key body =>
    service.withAddress bucket fun address =>
      if key.isEmpty then throw (unnamed "key").error
      else (ServiceRequest.putObject address key body).send

/-- A call of a bucket store carried out by requests. -/
def carryOut (service : BucketService) (c : BucketCall) : ServiceProgram c.Answer :=
  (service.perform c).run

/-- An operation on a bucket store carried out by requests. -/
def run {α : Type} (service : BucketService) (action : BucketAction α) : ServiceAction α :=
  ExceptT.mk (action.run.handle service.carryOut)

end BucketService

end CloudOps
