import CloudOps.Error

/-!
# How requests fail

* `RequestFailure`: what a client reports of a request. `RequestFailure.error` makes it a failure
  of the library: a service error keeps its code and its message word for word, and its kind
  depends on the code alone.
* `ReceivedError`: a service error in the form in which a client received it.
* `WaitFailure`: how waiting for a bucket ends without success, and `WaitFailure.error`.
-/

namespace CloudOps

/-- What a client reports of a request that failed. The texts are the causes that it names. -/
inductive RequestFailure
  /-- The service refused the request. -/
  | service (code message : Option String)
  | timeout (cause : String)
  /-- The request did not get out, or nothing came back. -/
  | dispatch (cause : String)
  /-- The answer could not be read. -/
  | response (cause : String)
  /-- The request could not be built. -/
  | construction (cause : String)
  deriving DecidableEq, Repr

/-- The type that a client has for a service error. -/
inductive ErrorForm
  /-- One that the client knows by name. It may hold a message of its own. -/
  | modelled (name : String) (ownMessage : Option String)
  /-- The one for all other errors. -/
  | unmodelled
  deriving DecidableEq, Repr

/-- A service error that a client received, with the code and the message of the answer. -/
structure ReceivedError where
  form : ErrorForm
  code : Option String
  message : Option String
  deriving DecidableEq, Repr

/-- What is reported of a service error. Its form and what that holds do not count. -/
def ReceivedError.failure (received : ReceivedError) : RequestFailure :=
  .service received.code received.message

/-- The message of a service error: the one that the service gave, else the code. -/
def serviceMessage (code message : Option String) : Message :=
  match message, code with
  | some message, _ => .text message
  | none, some code => .text code
  | none, none => .diagnostic none

/-- A failed request as a failure of the library. -/
def RequestFailure.error : RequestFailure → Error
  | .service code message => .service (.ofCode? code) code (serviceMessage code message)
  | .timeout cause => .service .transient none (.diagnostic (some cause))
  | .dispatch cause => .service .transient none (.diagnostic (some cause))
  | .response cause => .service .transient none (.diagnostic (some cause))
  | .construction cause => .service .fatal none (.diagnostic (some cause))

/-- How a wait ends without success. -/
inductive WaitFailure
  /-- The time ran out. -/
  | exceeded
  /-- A state was reached from which the awaited one cannot follow. -/
  | stuck
  /-- A request of the wait failed. -/
  | request (failure : RequestFailure)
  deriving DecidableEq, Repr

/-- A failed wait as a failure of the library. What failed within the wait does not decide its
kind. -/
def WaitFailure.error : WaitFailure → Error
  | .exceeded => .service .transient none (.diagnostic none)
  | .stuck => .service .fatal none (.diagnostic none)
  | .request _ => .service .unknown none (.diagnostic none)

@[simp] theorem RequestFailure.kind_service (code message : Option String) :
    (RequestFailure.service code message).error.kind = .ofCode? code := rfl

end CloudOps
