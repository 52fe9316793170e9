/-
# Calls of the limiter

What a limiter can be asked, as data: to decide on a request, to say how many requests count
in a window, and to forget everything.  The table of a limiter turns every call into at most
one operation on the counters, and the reply to the call is read off the answer to the
operation.  Nothing else of a limiter changes, so what holds of runs of operations carries
over to runs of calls.
-/
import Turnstile.Admission.Run
import Turnstile.Limiter
import Turnstile.Proofs.Omission

namespace Turnstile
namespace Limiter

/-- What a limiter can be asked. -/
inductive Call where
  /-- Decides at a time whether a request may proceed. -/
  | check (request : Request) (principal : Principal) (now : Nat)
  /-- Asks how many requests of an identity count in the window at a place of a policy. -/
  | recorded (policy : Policy) (identity : String) (index now : Nat)
  /-- Forgets all counters. -/
  | reset
deriving DecidableEq

/-- What a limiter replies. -/
inductive Reply where
  | decision (d : Decision)
  | count (n : Nat)
  | done
deriving DecidableEq

/-- The reply of a limiter to a call, and the limiter that the call leaves. -/
def answer (l : Limiter) : Call → Reply × Limiter
  | .check r principal now =>
    let o := (check r principal now).run l
    (.decision o.result, o.state)
  | .recorded p identity index now =>
    let o := (recorded p identity index now).run l
    (.count o.result, o.state)
  | .reset => (.done, (reset.run l).state)

namespace Call

/-- The operation on the counters that a call amounts to, if it amounts to one. -/
def operation? (l : Limiter) : Call → Option Operation
  | check r principal now => (l.policyFor? r.method r.route).map fun p =>
      .check (l.bucketFor p r principal) p.windows now
  | recorded p identity index now => p.windows[index]?.map fun w =>
      .recorded ⟨⟨p.key, identity⟩, index⟩ w now
  | reset => some .reset

/-- The reply to a call, given the answer to its operation if it has one. -/
def reply : Call → Option Operation.Answer → Reply
  | check _ _ now, some (.verdict v) => .decision (decisionOf v now)
  | check _ _ _, _ => .decision .unlimited
  | recorded _ _ _ _, some (.count n) => .count n
  | recorded _ _ _ _, _ => .count 0
  | reset, _ => .done

/-- The time of a call, if it has one. -/
def time? : Call → Option Nat
  | check _ _ now => some now
  | recorded _ _ _ now => some now
  | reset => none

/-- Whether a call is a check of a request that a policy of a table covers. -/
def selects (t : PolicyTable) (p : Policy) : Call → Bool
  | check r _ _ => t.find? r.method r.route == some p
  | _ => false

/-- Whether a call only asks for a count. -/
def isQuery : Call → Bool
  | recorded _ _ _ _ => true
  | _ => false

end Call

/-- A configuration without fault makes a limiter. -/
theorem ofConfig_of_faultless {c : LimiterConfig} (h : c.fault? = none) :
    ofConfig c = .ok { table := ⟨c.policies, h⟩, trustProxies := c.trustProxies } := by
  have ht : PolicyTable.ofList c.policies = .ok ⟨c.policies, h⟩ :=
    PolicyTable.ofList_eq_ok_iff.2 ⟨h, rfl⟩
  rw [ofConfig, ht]
  rfl

/-- A call performs its operation on the counters, if it has one, and changes nothing else. -/
theorem answer_eq (l : Limiter) (c : Call) :
    answer l c =
      (c.reply ((c.operation? l).map fun op => (op.perform l.counters).1),
        { l with
          counters := (c.operation? l).elim l.counters fun op => (op.perform l.counters).2 }) := by
  cases c with
  | check r principal now =>
    cases hp : l.policyFor? r.method r.route <;>
      simp [answer, check, Action.run, Call.operation?, Call.reply, Operation.perform, hp]
  | recorded p identity index now =>
    cases hw : p.windows[index]? <;>
      simp [answer, recorded, Call.operation?, Call.reply, Operation.perform, hw]
  | reset => rfl

/-- Two limiters with the same table and settings, whose counters are in a relation. -/
structure Related (P : Counters → Counters → Prop) (l l' : Limiter) : Prop where
  table : l'.table = l.table
  trustProxies : l'.trustProxies = l.trustProxies
  counters : P l.counters l'.counters

namespace Related

variable {P Q : Counters → Counters → Prop} {l l' : Limiter} {c : Call}

/-- A call amounts to the same operation on both sides. -/
theorem operation?_eq (h : Related P l l') (c : Call) : c.operation? l' = c.operation? l := by
  cases c with
  | check r principal now =>
    simp only [Call.operation?, policyFor?, bucketFor, identityFor, h.table, h.trustProxies]
  | recorded p identity index now => rfl
  | reset => rfl

theorem answer_both (h : Related P l l')
    (hP : (c.operation? l).elim (Q l.counters l'.counters) fun op =>
      Q (op.perform l.counters).2 (op.perform l'.counters).2) :
    Related Q (answer l c).2 (answer l' c).2 := by
  rw [answer_eq, answer_eq, h.operation?_eq c]
  refine ⟨h.table, h.trustProxies, ?_⟩
  cases hop : c.operation? l <;> simpa [hop] using hP

theorem answer_alone (h : Related P l l')
    (hP : (c.operation? l).elim (Q l.counters l'.counters) fun op =>
      Q (op.perform l.counters).2 l'.counters) :
    Related Q (answer l c).2 l' := by
  rw [answer_eq]
  refine ⟨h.table, h.trustProxies, ?_⟩
  cases hop : c.operation? l <;> simpa [hop] using hP

theorem reply_eq (h : Related P l l')
    (hP : ∀ op ∈ c.operation? l, (op.perform l.counters).1 = (op.perform l'.counters).1) :
    (answer l c).1 = (answer l' c).1 := by
  rw [answer_eq, answer_eq, h.operation?_eq c]
  cases hop : c.operation? l with
  | none => rfl
  | some op => rw [Option.map_some, Option.map_some, hP op hop]

end Related

theorem answer_table (l : Limiter) (c : Call) : (answer l c).2.table = l.table := by
  rw [answer_eq]

end Limiter
end Turnstile
