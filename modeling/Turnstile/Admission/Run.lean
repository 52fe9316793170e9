/-
# Runs of operations on the counters

What can be done to the counters, as data: checking a request, asking for a count, and
resetting.  Each operation has an answer, and a run is the fold of a list of operations.
-/
import Turnstile.Admission.Counters

namespace Turnstile

/-- An operation on the counters. -/
inductive Operation where
  /-- Checks a request of a bucket against windows at a time. -/
  | check (bucket : Bucket) (windows : List Window) (now : Nat)
  /-- Asks how many requests count in a window at a time. -/
  | recorded (key : CounterKey) (window : Window) (now : Nat)
  /-- Forgets everything. -/
  | reset
deriving DecidableEq, Repr

namespace Operation

/-- What an operation answers. -/
inductive Answer where
  | verdict (v : Verdict)
  | count (n : Nat)
  | done
deriving DecidableEq, Repr

/-- Performs an operation. -/
def perform (cs : Counters) : Operation → Answer × Counters
  | check b ws now =>
    let (v, cs') := cs.check b ws now
    (.verdict v, cs')
  | recorded k w now =>
    let (n, cs') := cs.recorded k w now
    (.count n, cs')
  | reset => (.done, Counters.reset)

/-- The answers of a list of operations in sequence, and the counters they leave. -/
def run (cs : Counters) : List Operation → List Answer × Counters
  | [] => ([], cs)
  | op :: ops =>
    let (a, cs') := op.perform cs
    let (as, cs'') := run cs' ops
    (a :: as, cs'')

/-- The time of an operation, if it has one. -/
def time? : Operation → Option Nat
  | check _ _ now => some now
  | recorded _ _ now => some now
  | reset => none

/-- The bucket of an operation, if it has one. -/
def bucket? : Operation → Option Bucket
  | check b _ _ => some b
  | recorded k _ _ => some k.bucket
  | reset => none

theorem run_append (cs : Counters) (xs ys : List Operation) :
    run cs (xs ++ ys) =
      ((run cs xs).1 ++ (run (run cs xs).2 ys).1, (run (run cs xs).2 ys).2) := by
  induction xs generalizing cs with
  | nil => rfl
  | cons x xs ih => simp [run, ih]

/-- What operations of a kind preserve, a run of them preserves. -/
theorem run_preserves {P : Counters → Prop} {F : Operation → Prop}
    (hstep : ∀ {cs op}, P cs → F op → P (op.perform cs).2) {cs : Counters} (h : P cs)
    {ops : List Operation} (hops : ∀ op ∈ ops, F op) : P (run cs ops).2 := by
  induction ops generalizing cs with
  | nil => exact h
  | cons op ops ih =>
    exact ih (hstep h (hops op List.mem_cons_self))
      fun op' hop' => hops op' (List.mem_cons_of_mem _ hop')

end Operation

end Turnstile
