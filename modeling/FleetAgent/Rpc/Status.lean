import FleetAgent.Error

/-!
# Status of a call

A call over the wire ends with a status. Every status but the first is a failure, and its code
says what kind of failure the agent takes it for.

## Main definitions

* `StatusCode`: the seventeen codes.
* `Status`: a code with its message.
* `Status.toClientError`: the failure of a call that ended with a status.
-/

namespace FleetAgent.Rpc

/-- The codes of a status. -/
inductive StatusCode where
  | ok
  | cancelled
  | unknown
  | invalidArgument
  | deadlineExceeded
  | notFound
  | alreadyExists
  | permissionDenied
  | resourceExhausted
  | failedPrecondition
  | aborted
  | outOfRange
  | unimplemented
  | internal
  | unavailable
  | dataLoss
  | unauthenticated
deriving DecidableEq, Inhabited, Repr

namespace StatusCode

/-- The codes in the order of their numbers. -/
def all : List StatusCode :=
  [.ok, .cancelled, .unknown, .invalidArgument, .deadlineExceeded, .notFound, .alreadyExists,
    .permissionDenied, .resourceExhausted, .failedPrecondition, .aborted, .outOfRange,
    .unimplemented, .internal, .unavailable, .dataLoss, .unauthenticated]

/-- The code of a number; a number without a code is unknown. -/
def ofNumber (n : Nat) : StatusCode := all.getD n .unknown

/-- The name of the code. -/
def name : StatusCode → String
  | ok => "Ok"
  | cancelled => "Cancelled"
  | unknown => "Unknown"
  | invalidArgument => "InvalidArgument"
  | deadlineExceeded => "DeadlineExceeded"
  | notFound => "NotFound"
  | alreadyExists => "AlreadyExists"
  | permissionDenied => "PermissionDenied"
  | resourceExhausted => "ResourceExhausted"
  | failedPrecondition => "FailedPrecondition"
  | aborted => "Aborted"
  | outOfRange => "OutOfRange"
  | unimplemented => "Unimplemented"
  | internal => "Internal"
  | unavailable => "Unavailable"
  | dataLoss => "DataLoss"
  | unauthenticated => "Unauthenticated"

end StatusCode

/-- How a call ended. -/
structure Status where
  /-- The code. -/
  code : StatusCode
  /-- The message. -/
  message : String := ""
deriving DecidableEq, Repr

/-- The failure of a call that ended with the status. The controller does not know the server or
the session, or does not speak the protocol, or could not be reached. -/
def Status.toClientError (s : Status) : ClientError :=
  let reason := s.code.name ++ ": " ++ s.message
  match s.code with
  | .unauthenticated | .permissionDenied | .notFound => .rejected reason
  | .unimplemented | .dataLoss => .protocol reason
  | _ => .transport reason

end FleetAgent.Rpc
