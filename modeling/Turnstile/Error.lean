/-
# What a caller is told when something fails

An `Error` is the report that reaches a caller: a request over quota, an absent record, a
rejected argument, or a fault of the store, the configuration or the program itself.  Each
has a message, an HTTP status and a machine-readable code.  The last three kinds are the
server's own affair: the body sent to a client keeps their message back.
-/
import Turnstile.Text.Quoted

namespace Turnstile

open Text (quoted)

/-- What can go wrong in the store of ordered rows. -/
inductive StoreError where
  /-- Two rows of one owner would share a position. -/
  | uniqueViolation (owner : String) (order : Int)
  /-- The row to change is not among the owner's rows. -/
  | rowNotFound (id : Int) (owner : String)
  /-- The owner's lock was not free in time. -/
  | lockTimeout (owner : String)
  /-- A transaction was used for another owner than the one it was opened for. -/
  | ownerMismatch (expected actual : String)
  /-- The owner holds as many rows as the store allows. -/
  | capacityExceeded (owner : String)
  /-- An outside store reported a failure. -/
  | backend (text : String)
deriving DecidableEq, Repr

/-- The message of a store error. -/
def StoreError.message : StoreError → String
  | .uniqueViolation owner order => s!"duplicate order {order} for owner {owner}"
  | .rowNotFound id owner => s!"row {id} not found for owner {owner}"
  | .lockTimeout owner => s!"timed out waiting for lock on owner {owner}"
  | .ownerMismatch expected actual => s!"transaction opened for owner {expected}, used for {actual}"
  | .capacityExceeded owner => s!"owner {owner} reached the maximum number of rows"
  | .backend text => s!"backend failure: {text}"

/-- The report of a failure. -/
inductive Error where
  /-- The request is over quota; it may be repeated after so many seconds. -/
  | rateLimited (retryAfter : Nat)
  /-- The addressed record does not exist for the caller. -/
  | notFound (what : String)
  /-- An argument is outside the accepted range. -/
  | validation (what : String)
  /-- The store failed. -/
  | storage (cause : StoreError)
  /-- The configuration cannot be used. -/
  | config (what : String)
  /-- The program met a state it does not expect. -/
  | internal (what : String)
deriving DecidableEq, Repr

namespace Error

/-- The full message of an error. -/
def message : Error → String
  | rateLimited _ => "Too Many Requests"
  | notFound what => what
  | validation what => what
  | storage cause => "Storage error: " ++ cause.message
  | config what => "Configuration error: " ++ what
  | internal what => "Internal error: " ++ what

/-- The HTTP status that reports an error. -/
def status : Error → Nat
  | rateLimited _ => 429
  | notFound _ => 404
  | validation _ => 422
  | storage _ | config _ | internal _ => 500

/-- The machine-readable code of an error. -/
def code : Error → String
  | rateLimited _ => "rate_limited"
  | notFound _ => "not_found"
  | validation _ => "validation_error"
  | storage _ | config _ | internal _ => "internal_error"

/-- Whether an error is the server's own affair. -/
def isServerFault (e : Error) : Bool := e.status == 500

/-- The message that a client may read: server faults keep theirs back. -/
def publicMessage (e : Error) : String :=
  if e.isServerFault then "Internal Server Error" else e.message

/-- The constructor and arguments of an error, as an operator reads them on a terminal. -/
def diagnostic : Error → String
  | rateLimited retryAfter => s!"RateLimitExceeded \x7b retry_after: {retryAfter} \x7d"
  | notFound what => s!"NotFound({quoted what})"
  | validation what => s!"Validation({quoted what})"
  | storage cause => s!"Storage({causeText cause})"
  | config what => s!"Config({quoted what})"
  | internal what => s!"Internal({quoted what})"
where
  /-- The constructor and arguments of a store error. -/
  causeText : StoreError → String
    | .uniqueViolation owner order =>
      s!"UniqueViolation \x7b owner: {quoted owner}, order: {order} \x7d"
    | .rowNotFound id owner => s!"RowNotFound \x7b id: {id}, owner: {quoted owner} \x7d"
    | .lockTimeout owner => s!"LockTimeout({quoted owner})"
    | .ownerMismatch expected actual =>
      s!"OwnerMismatch \x7b expected: {quoted expected}, actual: {quoted actual} \x7d"
    | .capacityExceeded owner => s!"CapacityExceeded({quoted owner})"
    | .backend text => s!"Backend({quoted text})"

end Error

end Turnstile
