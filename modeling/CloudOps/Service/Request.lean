import CloudOps.Catalog
import CloudOps.Calendar.Stamp
import CloudOps.Files
import CloudOps.Item
import CloudOps.Program
import CloudOps.Service.Failure

/-!
# Requests to the services

* `ServiceRequest`: the requests that the library sends, and `ServiceRequest.Reply`: what a
  successful answer to each holds. Anything in a reply may be missing.
* `ServiceCall`: a request, or a wait that polls a bucket until it is there or gone.
* `ServiceRequest.send`: the operation that sends one request and fails with it.
-/

namespace CloudOps

/-- How the bucket is named in the address of a request. -/
inductive Addressing
  /-- In the path. -/
  | path
  /-- In the name of the host. -/
  | virtualHost
  deriving DecidableEq, Repr

/-- A bucket and the way to address it. -/
structure BucketAddress where
  bucket : String
  addressing : Addressing
  deriving DecidableEq, Repr

/-- A request. -/
inductive ServiceRequest
  | listBuckets
  | createBucket (address : BucketAddress)
  | deleteBucket (address : BucketAddress)
  | listObjects (address : BucketAddress) (token : Option String)
  /-- The answer lists only what could not be deleted. -/
  | deleteObjects (address : BucketAddress) (keys : List String)
  | putBucketPolicy (address : BucketAddress) (text : String)
  /-- The body is read while the request is sent, and may break off. -/
  | putObject (address : BucketAddress) (key : String) (body : Body)
  | getItem (table : String) (key : Item)
  | describeParameterGroups (marker : Option String)
  | describeClusters (marker : Option String)

/-- A bucket in an answer. -/
structure ListedBucket where
  name : Option String
  created : Option Stamp.Moment
  deriving DecidableEq, Repr

/-- A page of objects in an answer. -/
structure ListedObjects where
  /-- The key of each entry. -/
  keys : List (Option String)
  truncated : Option Bool
  nextToken : Option String
  deriving DecidableEq, Repr

/-- A failed deletion in an answer. -/
structure ListedFailure where
  key : Option String
  code : Option String
  message : Option String
  deriving DecidableEq, Repr

/-- A parameter group in an answer. -/
structure ListedGroup where
  name : Option String
  family : Option String
  description : Option String
  deriving DecidableEq, Repr

/-- A page of a listing that goes on with a marker. -/
structure MarkedPage (α : Type) where
  entries : List α
  marker : Option String
  deriving DecidableEq, Repr

/-- What a successful answer holds. -/
def ServiceRequest.Reply : ServiceRequest → Type
  | .listBuckets => List ListedBucket
  | .listObjects .. => ListedObjects
  | .deleteObjects .. => List ListedFailure
  | .getItem .. => Option Item
  | .describeParameterGroups _ => MarkedPage ListedGroup
  | .describeClusters _ => MarkedPage Cluster
  | _ => Unit

/-- Whether a wait is for a bucket to be there or to be gone. -/
inductive Presence
  | present
  | absent
  deriving DecidableEq, Repr

/-- What a program asks of the services. -/
inductive ServiceCall
  | request (request : ServiceRequest)
  /-- Polls a bucket for at most so many seconds. -/
  | wait (presence : Presence) (address : BucketAddress) (seconds : UInt64)

/-- What comes back. -/
def ServiceCall.Answer : ServiceCall → Type
  | .request r => Except RequestFailure r.Reply
  | .wait .. => Except WaitFailure Unit

/-- A program over services. -/
abbrev ServiceProgram (α : Type) := Program ServiceCall ServiceCall.Answer α

/-- An operation over services. -/
abbrev ServiceAction (α : Type) := Action ServiceCall ServiceCall.Answer α

/-- The operation that sends one request and fails with it. -/
def ServiceRequest.send (r : ServiceRequest) : ServiceAction r.Reply :=
  ExceptT.mk (.call (.request r) fun answer => .done (answer.mapError RequestFailure.error))

/-- The operation that waits for a bucket. -/
def awaitBucket (presence : Presence) (address : BucketAddress) (seconds : UInt64) :
    ServiceAction Unit :=
  ExceptT.mk (.call (.wait presence address seconds) fun answer =>
    .done (answer.mapError WaitFailure.error))

end CloudOps
