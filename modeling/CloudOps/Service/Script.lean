import CloudOps.Service.Buckets
import CloudOps.Service.Databases
import CloudOps.Service.Tables

/-!
# Services that follow a script

* `ScriptedReply`: one scripted answer. It fits every request: each reads the parts that it knows.
* `ServiceScript`: the answers and the polls that are left. `ServiceScript.answer` gives the answer
  to a call and the script after it. A request whose body breaks off never gets one.
* `silence`: services that never answer.
-/

namespace CloudOps

/-- The parts of a successful answer. -/
structure ReplyParts where
  /-- The buckets, their dates as time stamps. -/
  buckets : List (Option String × Option String)
  keys : List (Option String)
  truncated : Option Bool
  token : Option String
  failures : List ListedFailure
  item : Option Item
  groups : List ListedGroup
  clusters : List Cluster
  marker : Option String

/-- An answer without content. -/
def ReplyParts.empty : ReplyParts := ⟨[], [], none, none, [], none, [], [], none⟩

/-- A scripted answer. -/
inductive ScriptedReply
  | parts (parts : ReplyParts)
  /-- The service refuses the request. Nothing is known of an error without a code. -/
  | refusal (code message : Option String)
  /-- Nothing comes back. -/
  | silence
  /-- An answer that cannot be read. -/
  | garbage

/-- A poll of a bucket. -/
inductive Poll
  | present
  | absent
  /-- The poll fails. -/
  | failed
  deriving DecidableEq, Repr

/-- What is left of a script. -/
structure ServiceScript where
  replies : List ScriptedReply
  polls : List Poll

/-- A bucket with its date read. There is none if the date cannot be read. -/
def listedBucket? (bucket : Option String × Option String) : Option ListedBucket :=
  match bucket.2 with
  | none => some ⟨bucket.1, none⟩
  | some stamp => (Stamp.read? stamp).map fun moment => ⟨bucket.1, some moment⟩

/-- The failure of an answer that names no code. -/
def unreadable : RequestFailure := .service none none

/-- What a request reads from a successful answer. -/
def ReplyParts.reply (parts : ReplyParts) : (r : ServiceRequest) → Except RequestFailure r.Reply
  | .listBuckets =>
    match parts.buckets.mapM listedBucket? with
    | some buckets => .ok buckets
    | none => .error unreadable
  | .listObjects _ _ => .ok ⟨parts.keys, parts.truncated, parts.token⟩
  | .deleteObjects _ _ => .ok parts.failures
  | .getItem _ _ => .ok parts.item
  | .describeParameterGroups _ => .ok ⟨parts.groups, parts.marker⟩
  | .describeClusters _ => .ok ⟨parts.clusters, parts.marker⟩
  | .createBucket _ => .ok ()
  | .deleteBucket _ => .ok ()
  | .putBucketPolicy _ _ => .ok ()
  | .putObject _ _ _ => .ok ()

/-- Whether the answer to a request has content. -/
def ServiceRequest.hasContent : ServiceRequest → Bool
  | .createBucket _ => false
  | .deleteBucket _ => false
  | .putBucketPolicy _ _ => false
  | .putObject _ _ _ => false
  | _ => true

/-- Whether the body of a request, if it has one, can be read to its end. -/
def ServiceRequest.isReadable : ServiceRequest → Bool
  | .putObject _ _ body => body.isReadable
  | _ => true

/-- A scripted answer to a request. -/
def ScriptedReply.answer (reply : ScriptedReply) (r : ServiceRequest) :
    Except RequestFailure r.Reply :=
  match reply with
  | .parts content => content.reply r
  | .refusal none _ => .error unreadable
  | .refusal (some code) message => .error (.service (some code) message)
  | .silence => .error (.dispatch "no answer")
  | .garbage => if r.hasContent then .error unreadable else ReplyParts.empty.reply r

/-- The failure when no answer is left. -/
def scriptExhausted : RequestFailure :=
  .service (some "ScriptExhausted") (some "no scripted response left")

/-- What a poll means for a wait: nothing yet, or its end. -/
def Poll.outcome? (presence : Presence) : Poll → Option (Except WaitFailure Unit)
  | .failed => some (.error (.request (.dispatch "poll failed")))
  | .present => if presence = .present then some (.ok ()) else none
  | .absent => if presence = .absent then some (.ok ()) else none

/-- How polls end a wait, and the polls after it. The last one repeats for ever, and without any
the bucket is there. Polls that decide nothing use up the time. -/
def pollsOutcome (presence : Presence) : List Poll → Except WaitFailure Unit × List Poll
  | [] => (((Poll.present).outcome? presence).getD (.error .exceeded), [])
  | [poll] => ((poll.outcome? presence).getD (.error .exceeded), [poll])
  | poll :: next :: polls =>
    match poll.outcome? presence with
    | some outcome => (outcome, next :: polls)
    | none => pollsOutcome presence (next :: polls)

namespace ServiceScript

/-- The answer to a call and the script after it. -/
def answer : (c : ServiceCall) → ServiceScript → c.Answer × ServiceScript
  | .request r, script =>
    if r.isReadable then
      match script.replies with
      | [] => (.error scriptExhausted, script)
      | reply :: replies => (reply.answer r, { script with replies })
    else (.error (.dispatch "body broke off"), script)
  | .wait presence _ _, script =>
    let (outcome, polls) := pollsOutcome presence script.polls
    (outcome, { script with polls })

/-- Enough pages for a walk: every page takes an answer, and without one it fails. -/
def pages (script : ServiceScript) : Nat := script.replies.length + 1

end ServiceScript

/-- Services that never answer. -/
def silence (cause : String) : (c : ServiceCall) → Unit → c.Answer × Unit
  | .request _, s => (.error (.dispatch cause), s)
  | .wait _ _ _, s => (.error (.request (.dispatch cause)), s)

end CloudOps
