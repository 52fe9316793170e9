/-
# The outcome of a check

Checking a request yields a verdict: whether it was admitted, and the state of every window
of its policy after the check.  The most restrictive of these states is the one a client is
told about.  It has the least room left; among exhausted windows it is the one that resets
last, so that at its reset every window has room again; what is still tied goes to the
window declared first.
-/
import Turnstile.Policy.Basic

namespace Turnstile

/-- The state of one window after a check. -/
structure WindowState where
  /-- The limit of the window. -/
  limit : Nat
  /-- How many requests still fit. -/
  remaining : Nat
  /-- The unix second at which the oldest counted request no longer counts. -/
  resetAt : Nat
  /-- The length of the window in seconds. -/
  seconds : Nat
deriving DecidableEq, Repr

/-- The outcome of checking every window of a policy. -/
structure Verdict where
  /-- Whether the request was admitted and recorded. -/
  allowed : Bool
  /-- The states of the windows, in the order of declaration. -/
  windows : List WindowState
deriving DecidableEq, Repr

namespace WindowState

/-- Whether a window has no room left. -/
def isExhausted (w : WindowState) : Bool := w.remaining == 0

/-- Whether `w` binds more tightly than `best`, which was declared earlier. -/
def binds (w best : WindowState) : Bool :=
  decide (w.remaining < best.remaining) ||
    (w.isExhausted && best.isExhausted && decide (best.resetAt < w.resetAt))

/-- The tighter of two states, the earlier one if neither is. -/
def tighter (best w : WindowState) : WindowState := if w.binds best then w else best

/-- The most restrictive of a list of states. -/
def mostRestrictive : List WindowState → Option WindowState
  | [] => none
  | w :: ws => some (ws.foldl tighter w)

end WindowState

namespace Verdict

/-- The state of the window that binds most tightly. -/
def mostRestrictive (v : Verdict) : Option WindowState := WindowState.mostRestrictive v.windows

end Verdict

end Turnstile
