/-
# One counter

A counter is the list of the times at which requests were admitted, in the order of
admission.  Before it is consulted, the times at its front that have left the trailing
window are dropped; a time still counts at exactly the length of the window after it.
-/
import Turnstile.Admission.Verdict

namespace Turnstile

/-- The times at which requests were admitted, in the order of admission. -/
abbrev Counter := List Nat

namespace Counter

/-- Whether a time lies before the window that trails `now`. -/
def isPast (w : Window) (now : Nat) (t : Nat) : Bool := decide (t < now - w.millis)

/-- A counter without the past times at its front. -/
def current (w : Window) (now : Nat) (c : Counter) : Counter := c.dropWhile (isPast w now)

/-- Whether a counter leaves room in a window. -/
def hasRoom (w : Window) (c : Counter) : Bool := decide (c.length < w.limit)

/-- The whole second after the oldest time of a counter leaves the window; a counter
without times stands for one that begins now. -/
def resetAt (w : Window) (now : Nat) (c : Counter) : Nat :=
  cappedAdd (c.head?.getD now) w.millis / 1000 + 1

/-- The state of a window with a given counter. -/
def state (w : Window) (now : Nat) (c : Counter) : WindowState where
  limit := w.limit
  remaining := w.limit - c.length
  resetAt := resetAt w now c
  seconds := w.seconds

theorem current_suffix (w : Window) (now : Nat) (c : Counter) : current w now c <:+ c :=
  List.dropWhile_suffix _

theorem length_current_le (w : Window) (now : Nat) (c : Counter) :
    (current w now c).length ≤ c.length :=
  (current_suffix w now c).length_le

@[simp] theorem current_nil (w : Window) (now : Nat) : current w now [] = [] := rfl

end Counter

end Turnstile
