/-
# What all counters hold

Whatever the clock does, every counter in use is that of a window of its policy; it holds the
latest of the times at which requests of its bucket were admitted since the last reset, in
the order of admission, and no more of them than the window accepts.

A check looks at the counters once they are up to date.  So it turns a request away exactly
if one of them has as many times as its window accepts, and then the window that the caller
is told about has nothing remaining, before anybody sets what remains to zero.  An admitted
request is the last time in every counter of its bucket; a rejected one is in none.
-/
import Turnstile.Proofs.Admission.Held
import Turnstile.Proofs.Admission.Isolation
import Turnstile.Proofs.Admission.Waiting

namespace Turnstile
namespace Counters

variable {ws : String → List Window} {cs : Counters}

/-! ## Counters in use -/

/-- Every counter in use is that of a window of its policy. -/
def HaveWindows (ws : String → List Window) (cs : Counters) : Prop :=
  ∀ k c, cs.register.get? k = some c → ∃ w, (ws k.bucket.policy)[k.index]? = some w

theorem haveWindows_empty (ws : String → List Window) : HaveWindows ws {} := by
  intro k c hc
  cases hc

theorem HaveWindows.check (h : HaveWindows ws cs) (b : Bucket) (now : Nat) :
    HaveWindows ws (cs.check b (ws b.policy) now).2 := by
  intro k c hc
  cases hw : windowOf? b (ws b.policy) k with
  | none =>
    rw [get?_check_of_windowOf?_eq_none cs hw] at hc
    exact h k c hc
  | some w =>
    obtain ⟨hb, hindex⟩ : k.bucket = b ∧ (ws b.policy)[k.index]? = some w := by
      simpa [windowOf?] using hw
    exact ⟨w, by rw [hb, hindex]⟩

/-- Asking for a count brings no counter into use. -/
theorem HaveWindows.recorded (h : HaveWindows ws cs) (l : CounterKey) (w : Window)
    (now : Nat) : HaveWindows ws (cs.recorded l w now).2 := by
  intro k c hc
  rw [get?_recorded] at hc
  split at hc
  · obtain ⟨c', hc', -⟩ := Option.map_eq_some_iff.1 hc
    exact h k c' hc'
  · exact h k c hc

theorem HaveWindows.perform (h : HaveWindows ws cs) {op : Operation} (hfit : op.Fits ws) :
    HaveWindows ws (op.perform cs).2 := by
  cases op with
  | check b l now =>
    obtain rfl : l = ws b.policy := hfit
    exact h.check b now
  | recorded k w now => exact h.recorded k w now
  | reset => exact haveWindows_empty ws

theorem HaveWindows.run (h : HaveWindows ws cs) {ops : List Operation}
    (hfit : ∀ op ∈ ops, op.Fits ws) : HaveWindows ws (Operation.run cs ops).2 :=
  Operation.run_preserves (fun h hfit => h.perform hfit) h hfit

/-! ## What a check comes to -/

/-- What a check of a bucket comes to. -/
structure CheckOutcome (l : List Window) (cs : Counters) (b : Bucket) (now : Nat) : Prop where
  /-- An admitted request is the last time in every counter of the bucket. -/
  recorded : (cs.check b l now).1.allowed = true → ∀ i w, l[i]? = some w →
    (cs.check b l now).2.counter ⟨b, i⟩ = (cs.counter ⟨b, i⟩).current w now ++ [now]
  /-- A rejected request is in none of them. -/
  unrecorded : (cs.check b l now).1.allowed = false → ∀ i w, l[i]? = some w →
    (cs.check b l now).2.counter ⟨b, i⟩ = (cs.counter ⟨b, i⟩).current w now
  /-- A request is turned away by a counter that is exactly full. -/
  rejected_iff : (cs.check b l now).1.allowed = false ↔
    ∃ i w, l[i]? = some w ∧ ((cs.counter ⟨b, i⟩).current w now).length = w.limit
  /-- The rejection reports the tightest window as it is. -/
  exhausted : (cs.check b l now).1.allowed = false →
    ∃ s, (cs.check b l now).1.mostRestrictive = some s ∧ s.remaining = 0 ∧
      (Rejection.of (.ofState s) now).headers = .ofState s

/-- A counter within its limit leaves no room only if it is exactly full. -/
theorem KeepsLimits.not_allowed_iff (h : KeepsLimits ws cs) (b : Bucket) (now : Nat) :
    (cs.check b (ws b.policy) now).1.allowed = false ↔
      ∃ i w, (ws b.policy)[i]? = some w ∧
        ((cs.counter ⟨b, i⟩).current w now).length = w.limit := by
  rw [check_not_allowed_iff]
  constructor
  · rintro ⟨i, w, hw, hfull⟩
    have hcurrent := Counter.length_current_le w now (cs.counter ⟨b, i⟩)
    have hlimit := h b i w hw
    exact ⟨i, w, hw, by omega⟩
  · rintro ⟨i, w, hw, hfull⟩
    exact ⟨i, w, hw, by omega⟩

theorem KeepsLimits.checkOutcome (h : KeepsLimits ws cs) (b : Bucket) (now : Nat) :
    CheckOutcome (ws b.policy) cs b now where
  recorded hallowed _ _ hw := (counter_check_self cs hw).trans (if_pos hallowed)
  unrecorded hrejected _ _ hw := counter_check_of_not_allowed hrejected hw
  rejected_iff := h.not_allowed_iff b now
  exhausted hrejected := by
    obtain ⟨s, hfound, hzero⟩ := exists_mostRestrictive hrejected
    refine ⟨s, hfound, hzero, ?_⟩
    simp only [Rejection.of, QuotaHeaders.ofState, hzero]

end Counters

namespace Operation

/-- **Counters hold the latest admissions, within their limits.**  After any run of operations
that go by fixed windows, at whatever times, every counter in use is that of a window, holds
the latest of the times at which requests of its bucket were admitted since the last reset,
and has no more of them than the window accepts; and every check of a bucket comes to what
the counters of the bucket say. -/
theorem counters_hold_latest (ws : String → List Window) (past : List Operation)
    (hfit : ∀ op ∈ past, op.Fits ws) :
    let admitted := sinceReset [] past (run {} past).1
    let cs := (run {} past).2
    (∀ k c, cs.register.get? k = some c → ∃ w, (ws k.bucket.policy)[k.index]? = some w ∧
      c <:+ admitted.times k.bucket ∧ c.length ≤ w.limit) ∧
    ∀ b now, Counters.CheckOutcome (ws b.policy) cs b now := by
  intro admitted cs
  have hwindows : Counters.HaveWindows ws cs := (Counters.haveWindows_empty ws).run hfit
  have hlatest : Counters.HoldLatest ws cs admitted := (Counters.holdLatest_empty ws).run hfit
  have hlimits : Counters.KeepsLimits ws cs := (Counters.keepsLimits_empty ws).run hfit
  constructor
  · intro k c hc
    obtain ⟨w, hw⟩ := hwindows k c hc
    obtain rfl : cs.counter k = c := Counters.counter_of_get?_some hc
    exact ⟨w, hw, hlatest k.bucket k.index w hw, hlimits k.bucket k.index w hw⟩
  · exact fun b now => hlimits.checkOutcome b now

/-- A clock that goes back twice, a reset, and a window of a second beside one of ten: the
counter of the shorter one has been cut by a query, that of the longer one still holds all
three times, and a fourth request is turned away by the longer one. -/
theorem counters_hold_latest_after_steps_back :
    let ws : String → List Window := fun _ => [⟨3, 1⟩, ⟨3, 10⟩]
    let b : Bucket := ⟨"GET:/x", "user:a"⟩
    let past : List Operation := [.check b (ws b.policy) 9000, .reset,
      .check b (ws b.policy) 5000, .check b (ws b.policy) 4000, .check b (ws b.policy) 4500,
      .recorded ⟨b, 0⟩ ⟨3, 1⟩ 6001]
    let admitted := sinceReset [] past (run {} past).1
    let cs := (run {} past).2
    let o := cs.check b (ws b.policy) 7000
    (∀ op ∈ past, op.Fits ws) ∧ admitted.times b = [5000, 4000, 4500] ∧
      cs.counter ⟨b, 0⟩ = [] ∧ cs.register.get? ⟨b, 1⟩ = some [5000, 4000, 4500] ∧
      (∃ w, (ws b.policy)[1]? = some w ∧ [5000, 4000, 4500] <:+ admitted.times b ∧
        3 ≤ w.limit) ∧
      o.1.allowed = false ∧ ∃ s, o.1.mostRestrictive = some s ∧ s.remaining = 0 := by
  intro ws b past admitted cs o
  have hfit : ∀ op ∈ past, op.Fits ws := by decide
  have htimes : admitted.times b = [5000, 4000, 4500] := by decide +kernel
  have hcut : cs.counter ⟨b, 0⟩ = [] := by decide +kernel
  have hget : cs.register.get? ⟨b, 1⟩ = some [5000, 4000, 4500] := by decide +kernel
  have hrejected : o.1.allowed = false := by decide +kernel
  obtain ⟨hholds, hchecks⟩ := counters_hold_latest ws past hfit
  obtain ⟨s, hfound, hzero, -⟩ := (hchecks b 7000).exhausted hrejected
  exact ⟨hfit, htimes, hcut, hget, hholds _ _ hget, hrejected, s, hfound, hzero⟩

end Operation
end Turnstile
