/-
# The history of admissions

The plain account of what the counters keep in a clever way: a list of everything that was
admitted since the last reset, with bucket and time.  A time is live for a window as long
as `now` is no later than the time plus the length of the window, in unbounded numbers.  A
request is admitted if for every window the live times of its bucket are below the limit.
-/
import Turnstile.Admission.Run

namespace Turnstile

/-- One admission. -/
structure Admission where
  bucket : Bucket
  time : Nat
deriving DecidableEq, Repr

/-- The admissions since the last reset, in order. -/
abbrev History := List Admission

namespace History

/-- Whether a time is live for a window. -/
def isLive (w : Window) (now : Nat) (t : Nat) : Bool := decide (now ≤ t + 1000 * w.seconds)

/-- The times of a bucket that are live for a window, in order. -/
def live (h : History) (b : Bucket) (w : Window) (now : Nat) : List Nat :=
  (h.filter fun a => a.bucket = b).map Admission.time |>.filter (isLive w now)

/-- The state of a window according to the history. -/
def state (h : History) (b : Bucket) (w : Window) (now : Nat) : WindowState where
  limit := w.limit
  remaining := w.limit - (h.live b w now).length
  resetAt := min ((h.live b w now).head?.getD now + 1000 * w.seconds) maxWord / 1000 + 1
  seconds := w.seconds

/-- Whether a request is admitted according to the history. -/
def admits (h : History) (b : Bucket) (ws : List Window) (now : Nat) : Bool :=
  ws.all fun w => decide ((h.live b w now).length < w.limit)

/-- Performs an operation on the history. -/
def perform (h : History) : Operation → Operation.Answer × History
  | .check b ws now =>
    let allowed := h.admits b ws now
    let after := if allowed then h ++ [⟨b, now⟩] else h
    (.verdict ⟨allowed, ws.map fun w => after.state b w now⟩, after)
  | .recorded k w now => (.count (h.live k.bucket w now).length, h)
  | .reset => (.done, [])

/-- The answers of a list of operations in sequence, and the history they leave. -/
def run (h : History) : List Operation → List Operation.Answer × History
  | [] => ([], h)
  | op :: ops =>
    let (a, h') := h.perform op
    let (as, h'') := run h' ops
    (a :: as, h'')

end History

end Turnstile
