/-
# Rejections and decisions

A rejection tells a client that nothing remains, when the quota resets, and for how many
seconds to stay away: the wait until the reset, rounded up, and at least one.  A decision
is what the limiter makes of a request: no policy binds it, it passes, or it is rejected.
-/
import Turnstile.Error
import Turnstile.Reply.Headers

namespace Turnstile

/-- A request turned away. -/
structure Rejection where
  headers : QuotaHeaders
  /-- The seconds to wait before the next attempt. -/
  retryAfter : Nat
deriving DecidableEq, Repr

namespace Rejection

/-- The whole seconds, rounded up, from a time to the start of a unix second. -/
def secondsUntil (reset now : Nat) : Nat := (cappedMul reset 1000 - now + 999) / 1000

/-- The rejection of a request at a time, given the state of the tightest window. -/
def of (headers : QuotaHeaders) (now : Nat) : Rejection where
  headers := { headers with remaining := 0 }
  retryAfter := max (secondsUntil headers.reset now) 1

/-- The error that reports a rejection. -/
def toError (r : Rejection) : Error := .rateLimited r.retryAfter

/-- The status of the response. -/
def status (_ : Rejection) : Nat := 429

/-- The headers of the response: the quota, and when to come back. -/
def pairs (r : Rejection) : List (String × String) :=
  r.headers.pairs ++ [("Retry-After", toString r.retryAfter)]

/-- Sets the headers on a response. -/
def apply {σ : Type} [HeaderSink σ] (r : Rejection) (sink : σ) : σ := setHeaders sink r.pairs

theorem one_le_retryAfter (headers : QuotaHeaders) (now : Nat) :
    1 ≤ (of headers now).retryAfter := Nat.le_max_right _ _

end Rejection

/-- What the limiter makes of a request. -/
inductive Decision where
  /-- No policy binds the request. -/
  | unlimited
  /-- The request passes and was recorded in every window. -/
  | allowed (headers : QuotaHeaders)
  /-- Some window has no room; nothing was recorded. -/
  | rejected (rejection : Rejection)
deriving DecidableEq, Repr

namespace Decision

/-- Whether a decision turns the request away. -/
def isRejected : Decision → Bool
  | rejected _ => true
  | _ => false

/-- The quota that a response reports, if any. -/
def headers? : Decision → Option QuotaHeaders
  | unlimited => none
  | allowed h => some h
  | rejected r => some r.headers

/-- The quota of a request that passes, or the error that turns it away. -/
def toResult : Decision → Except Error (Option QuotaHeaders)
  | unlimited => .ok none
  | allowed h => .ok (some h)
  | rejected r => .error r.toError

end Decision

end Turnstile
