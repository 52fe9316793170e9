/-
# Checking and recording requests

Every policy and identity together make a bucket, and every window of the policy has a
counter of its own in the bucket.  A check first brings all counters of the bucket up to
date, then admits the request if every window has room, and only then records it, in every
window.  A rejected request is recorded nowhere.

A counter that a check finds empty is forgotten, so that the register holds no more than
what is in use; merely looking at a counter keeps it.
-/
import Turnstile.Register
import Turnstile.Admission.Counter

namespace Turnstile

/-- What requests are counted together: those under one policy by one identity. -/
structure Bucket where
  /-- The key of the policy. -/
  policy : String
  /-- The identity of the caller. -/
  identity : String
deriving DecidableEq, Repr

/-- The counter of a bucket for the window at a place of the policy. -/
structure CounterKey where
  bucket : Bucket
  /-- The place of the window in the policy. -/
  index : Nat
deriving DecidableEq, Repr

/-- All counters in use. -/
structure Counters where
  register : Register CounterKey Counter := {}
deriving DecidableEq, Repr

namespace Counters

/-- The counter under a key; a key without one counts as empty. -/
def counter (cs : Counters) (k : CounterKey) : Counter := cs.register.getD k []

/-- The number of counters in use. -/
def size (cs : Counters) : Nat := cs.register.size

/-- Brings the counter of a window up to date and forgets it if nothing is left. -/
def refresh (now : Nat) (cs : Counters) (slot : CounterKey × Window) : Counters :=
  match cs.register.get? slot.1 with
  | none => cs
  | some c =>
    match c.current slot.2 now with
    | [] => ⟨cs.register.erase slot.1⟩
    | c' => ⟨cs.register.insert slot.1 c'⟩

/-- Records a request in the counter of a window. -/
def record (now : Nat) (cs : Counters) (slot : CounterKey × Window) : Counters :=
  ⟨cs.register.insert slot.1 (cs.counter slot.1 ++ [now])⟩

/-- The windows of a policy with the keys of their counters in a bucket. -/
def slots (b : Bucket) (ws : List Window) : List (CounterKey × Window) :=
  ws.zipIdx.map fun p => (⟨b, p.2⟩, p.1)

/-- Whether every window of a list has room. -/
def haveRoom (cs : Counters) (slots : List (CounterKey × Window)) : Bool :=
  slots.all fun slot => (cs.counter slot.1).hasRoom slot.2

/-- Checks a request against the windows of its policy and records it if it is admitted. -/
def check (b : Bucket) (ws : List Window) (now : Nat) (cs : Counters) : Verdict × Counters :=
  let slots := slots b ws
  let fresh := slots.foldl (refresh now) cs
  let allowed := fresh.haveRoom slots
  let after := if allowed then slots.foldl (record now) fresh else fresh
  (⟨allowed, slots.map fun slot => (after.counter slot.1).state slot.2 now⟩, after)

/-- The number of requests that count in one window now. -/
def recorded (k : CounterKey) (w : Window) (now : Nat) (cs : Counters) : Nat × Counters :=
  match cs.register.get? k with
  | none => (0, cs)
  | some c =>
    let c' := c.current w now
    (c'.length, ⟨cs.register.insert k c'⟩)

/-- No counters. -/
def reset : Counters := {}

end Counters

end Turnstile
