import CloudOps.Json.Failure

/-!
# Failures of cloud operations

* `ErrorKind`: how a caller should treat a failure; `ErrorKind.ofCode?` finds it from the code
  that a service gives.
* `Message`: a text, or a diagnostic whose wording is left open.
* `Error`: the failures of the library, with their kind, code and message.
-/

namespace CloudOps

/-- How a caller should treat a failure. -/
inductive ErrorKind
  /-- The named resource does not exist. -/
  | notFound
  /-- The request never got a usable answer, or the service throttled it or failed on its side. -/
  | transient
  /-- The request could not be built, or the outcome cannot be used. -/
  | fatal
  /-- Any other service failure, such as a denied access. -/
  | unknown
  deriving DecidableEq, Repr

namespace ErrorKind

/-- The kind in words. -/
def text : ErrorKind → String
  | .notFound => "not found"
  | .transient => "transient"
  | .fatal => "fatal"
  | .unknown => "unknown"

/-- The codes that say that something does not exist. -/
def notFoundCodes : List String :=
  ["NoSuchBucket", "NoSuchKey", "NotFound", "ResourceNotFoundException", "DBClusterNotFoundFault",
    "DBParameterGroupNotFound"]

/-- The codes of throttling and of failures on the side of the service. -/
def transientCodes : List String :=
  ["SlowDown", "InternalError", "ServiceUnavailable", "RequestTimeout", "Throttling",
    "ThrottlingException", "ThrottledException", "TooManyRequestsException",
    "RequestLimitExceeded", "RequestThrottled", "RequestThrottledException",
    "ProvisionedThroughputExceededException", "TransactionInProgressException"]

/-- The kind of a failure with a given code. -/
def ofCode? : Option String → ErrorKind
  | none => .unknown
  | some code =>
    if code ∈ notFoundCodes then .notFound
    else if code ∈ transientCodes then .transient
    else .unknown

/-- No code is in both tables. -/
theorem codes_disjoint {code : String} (h : code ∈ notFoundCodes) : code ∉ transientCodes := by
  simp only [notFoundCodes, List.mem_cons, List.not_mem_nil, or_false] at h
  rcases h with rfl | rfl | rfl | rfl | rfl | rfl <;> decide

theorem ofCode?_eq_notFound_iff {code : String} :
    ofCode? (some code) = .notFound ↔ code ∈ notFoundCodes := by
  unfold ofCode?
  by_cases absent : code ∈ notFoundCodes
  · simp [absent]
  · by_cases passing : code ∈ transientCodes <;> simp [absent, passing]

theorem ofCode?_eq_transient_iff {code : String} :
    ofCode? (some code) = .transient ↔ code ∈ transientCodes := by
  unfold ofCode?
  by_cases absent : code ∈ notFoundCodes
  · simp [absent, codes_disjoint absent]
  · by_cases passing : code ∈ transientCodes <;> simp [absent, passing]

theorem ofCode?_ne_fatal (code : Option String) : ofCode? code ≠ .fatal := by
  unfold ofCode?
  repeat' split
  all_goals simp

/-- A failure is of no particular kind exactly if its code, if it has one, is in neither table. -/
theorem ofCode?_eq_unknown_iff {code : Option String} :
    ofCode? code = .unknown ↔
      ∀ known, code = some known → known ∉ notFoundCodes ∧ known ∉ transientCodes := by
  cases code with
  | none => simp [ofCode?]
  | some code =>
    unfold ofCode?
    by_cases absent : code ∈ notFoundCodes
    · simp [absent]
    · by_cases passing : code ∈ transientCodes <;> simp [absent, passing]

end ErrorKind

/-- The message of a failure. -/
inductive Message
  /-- Exactly this text. -/
  | text (value : String)
  /-- A diagnostic of what lies below. Its wording is left open; it contains its cause. -/
  | diagnostic (cause : Option String)
  deriving DecidableEq, Repr

namespace Message

/-- The text of a message, if its wording is fixed. -/
def text? : Message → Option String
  | .text value => some value
  | .diagnostic _ => none

/-- What a diagnostic is known to contain. -/
def cause? : Message → Option String
  | .text _ => none
  | .diagnostic cause => cause

/-- A message with a fixed text in front. The wording of a diagnostic stays open. -/
def after (text : String) : Message → Message
  | .text value => .text (text ++ value)
  | .diagnostic cause => .diagnostic cause

end Message

/-- An object that a delete request could not delete. -/
structure DeleteFailure where
  key : String
  code : Option String
  message : Option String
  deriving DecidableEq, Repr

/-- A failure of an operation. -/
inductive Error
  /-- A service refused a request, or the request did not reach it. -/
  | service (kind : ErrorKind) (code : Option String) (message : Message)
  /-- Some objects of a bucket could not be deleted. -/
  | partialDelete (bucket : String) (failed : List DeleteFailure)
  /-- A stored value does not have the expected form. -/
  | decode (what reason : String)
  /-- A file could not be read. -/
  | io (message : Message)
  /-- A text is not the expected JSON. -/
  | json (failure : Json.Failure)
  deriving DecidableEq

namespace Error

/-- How a caller should treat the failure. -/
def kind : Error → ErrorKind
  | .service kind _ _ => kind
  | .partialDelete .. => .fatal
  | .decode .. => .fatal
  | .io _ => .unknown
  | .json _ => .fatal

/-- The code that the service gave. -/
def code? : Error → Option String
  | .service _ code _ => code
  | _ => none

/-- Whether the failure says that something does not exist. -/
def isNotFound (e : Error) : Bool := e.kind == .notFound

/-- The first key of a list of failures. -/
def firstKey (failed : List DeleteFailure) : String :=
  match failed with
  | [] => "none"
  | failure :: _ => failure.key

/-- The message of the failure. -/
def message : Error → Message
  | .service _ _ message => message
  | .partialDelete bucket failed =>
    .text (failed.length.repr ++ " object(s) in " ++ bucket ++ " could not be deleted (first: "
      ++ firstKey failed ++ ")")
  | .decode what reason => .text ("could not decode " ++ what ++ ": " ++ reason)
  | .io message => message
  | .json failure => .text failure.message

@[simp] theorem kind_service (kind : ErrorKind) (code : Option String) (message : Message) :
    (Error.service kind code message).kind = kind := rfl

end Error

end CloudOps
