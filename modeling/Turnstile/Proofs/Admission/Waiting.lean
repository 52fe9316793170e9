/-
# Waiting for the reset

A request that is turned away is told when to come back, in two ways: the unix second at
which the tightest window resets, and the number of seconds until then.  Both are exact as
long as the clock does not go back from then on.  No request of the bucket is admitted
before the second in which the tightest window gets room; at the reset every window has
room, unless a request has been admitted meanwhile; and no smaller number of seconds would
lead up to the reset.

None of this depends on how the clock went before, since counters keep within their limits
all the same.
-/
import Turnstile.Proofs.Admission.Limits
import Turnstile.Proofs.Admission.Tightest
import Turnstile.Reply.Rejection

namespace Turnstile

/-! ## The seconds to wait -/

/-- The seconds to wait are the least number that leads up to a reset that lies ahead. -/
theorem Rejection.retryAfter_least {headers : QuotaHeaders} {now : Nat}
    (hword : headers.reset * 1000 ≤ maxWord) (hahead : now < headers.reset * 1000) :
    let r := (Rejection.of headers now).retryAfter
    1 ≤ r ∧ headers.reset * 1000 ≤ now + 1000 * r ∧
      now + 1000 * (r - 1) < headers.reset * 1000 := by
  simp only [Rejection.of, secondsUntil, cappedMul, Nat.min_eq_left hword]
  omega

namespace Counters

variable {ws : String → List Window} {cs : Counters} {b : Bucket} {now : Nat}

/-! ## The tightest window of a request that is turned away -/

/-- The state that is reported of the window at a place is that of its counter. -/
theorem getElem?_windows_check {l : List Window} {i : Nat} {w : Window} (hw : l[i]? = some w) :
    (cs.check b l now).1.windows[i]? =
      some (((cs.check b l now).2.counter ⟨b, i⟩).state w now) := by
  rw [check_windows, List.getElem?_map, List.getElem?_zipIdx, hw]
  simp

/-- What the tightest window of a rejected request shows: its counter is full, its reset is
that of its oldest time, and no exhausted window resets later. -/
structure Exhausted (b : Bucket) (l : List Window) (now : Nat) (cs : Counters)
    (tightest : WindowState) : Prop where
  found : (cs.check b l now).1.mostRestrictive = some tightest
  counter : ∃ i w, l[i]? = some w ∧
    w.limit ≤ ((cs.check b l now).2.counter ⟨b, i⟩).length ∧
    tightest.resetAt = ((cs.check b l now).2.counter ⟨b, i⟩).resetAt w now
  latest : ∀ i w, l[i]? = some w → w.limit ≤ ((cs.check b l now).2.counter ⟨b, i⟩).length →
    ((cs.check b l now).2.counter ⟨b, i⟩).resetAt w now ≤ tightest.resetAt

theorem state_mem_windows_check {l : List Window} {i : Nat} {w : Window}
    (hw : l[i]? = some w) :
    ((cs.check b l now).2.counter ⟨b, i⟩).state w now ∈ (cs.check b l now).1.windows :=
  List.mem_of_getElem? (getElem?_windows_check hw)

/-- The tightest window of a rejected request has nothing remaining. -/
theorem exists_mostRestrictive {l : List Window}
    (hrejected : (cs.check b l now).1.allowed = false) :
    ∃ s, (cs.check b l now).1.mostRestrictive = some s ∧ s.remaining = 0 := by
  obtain ⟨j, v, hv, hfull⟩ := check_not_allowed_iff.1 hrejected
  rw [← counter_check_of_not_allowed hrejected hv] at hfull
  obtain ⟨s, -, hfound, htight⟩ :=
    WindowState.mostRestrictive_tightest (List.ne_nil_of_mem (state_mem_windows_check hv))
  refine ⟨s, hfound, ?_⟩
  -- the window that turned the request away is exhausted, and so the tightest one is
  have hle := (htight _ (state_mem_windows_check hv)).remaining_le
  simp only [Counter.state] at hle
  omega

/-- A rejected request reports an exhausted window. -/
theorem exists_exhausted {l : List Window} (hrejected : (cs.check b l now).1.allowed = false) :
    ∃ tightest, Exhausted b l now cs tightest := by
  obtain ⟨s, hfound, hzero⟩ := exists_mostRestrictive hrejected
  obtain ⟨hs, htight⟩ := WindowState.mostRestrictive_eq_some hfound
  refine ⟨s, hfound, ?_, fun i w hw hle => ?_⟩
  · rw [check_windows, List.mem_map] at hs
    obtain ⟨⟨w, i⟩, hslot, rfl⟩ := hs
    have hw : l[i]? = some w := List.mem_zipIdx_iff_getElem?.1 hslot
    refine ⟨i, w, hw, ?_, rfl⟩
    simp only [Counter.state] at hzero
    omega
  · refine (htight _ (state_mem_windows_check hw)).resetAt_le hzero ?_
    simp only [Counter.state]
    omega

/-- A full counter of a window that accepts something has an oldest time. -/
theorem exists_oldest {l : List Window} (hrejected : (cs.check b l now).1.allowed = false)
    {i : Nat} {w : Window} (hw : l[i]? = some w) (hlimit : 1 ≤ w.limit)
    (hfull : w.limit ≤ ((cs.check b l now).2.counter ⟨b, i⟩).length) :
    ∃ oldest, ((cs.check b l now).2.counter ⟨b, i⟩).head? = some oldest ∧
      now ≤ oldest + w.millis := by
  cases hhead : ((cs.check b l now).2.counter ⟨b, i⟩).head? with
  | none =>
    rw [List.head?_eq_none_iff.1 hhead, List.length_nil] at hfull
    omega
  | some oldest =>
    rw [counter_check_of_not_allowed hrejected hw] at hhead
    exact ⟨oldest, rfl, Counter.le_of_head?_current hhead⟩

/-! ## Before and after the reset -/

/-- Up to the second before the reset, the tightest window stays full. -/
theorem Exhausted.fullUntil {tightest : WindowState}
    (h : Exhausted b (ws b.policy) now cs tightest)
    (hlimits : ∀ w ∈ ws b.policy, 1 ≤ w.limit)
    (hrejected : (cs.check b (ws b.policy) now).1.allowed = false) :
    ∃ i w c, FullUntil ws (cs.check b (ws b.policy) now).2 ⟨b, i⟩ w
      ((tightest.resetAt - 1) * 1000) c := by
  obtain ⟨i, w, hw, hfull, hreset⟩ := h.counter
  obtain ⟨oldest, hhead, -⟩ :=
    exists_oldest hrejected hw (hlimits w (List.mem_of_getElem? hw)) hfull
  have hbefore := (Counter.min_lt_resetAt w now hhead).2
  rw [← hreset] at hbefore
  exact ⟨i, w, _, hw, rfl, hfull, fun t ht => Counter.current_eq_self hhead (by omega)⟩

/-- From the reset on, every window has room, as long as its counter has only lost times. -/
theorem Exhausted.allowed {tightest : WindowState}
    (h : Exhausted b (ws b.policy) now cs tightest)
    (hlimits : ∀ w ∈ ws b.policy, 1 ≤ w.limit)
    (hrejected : (cs.check b (ws b.policy) now).1.allowed = false)
    (hkeeps : KeepsLimits ws cs) (hword : tightest.resetAt * 1000 ≤ maxWord)
    {cs' : Counters}
    (hsuffix : ∀ i, cs'.counter ⟨b, i⟩ <:+ (cs.check b (ws b.policy) now).2.counter ⟨b, i⟩)
    {t : Nat} (ht : tightest.resetAt * 1000 ≤ t) :
    (cs'.check b (ws b.policy) t).1.allowed = true := by
  refine check_allowed_iff.2 fun i w hw => ?_
  have hbound := hkeeps.check b now b i w hw
  have hcurrent := Counter.length_current_le w t (cs'.counter ⟨b, i⟩)
  have hlen := (hsuffix i).length_le
  rcases Nat.lt_or_ge ((cs.check b (ws b.policy) now).2.counter ⟨b, i⟩).length w.limit with
    hroom | hfull
  · omega
  · -- the window was full, so its oldest time is past by now, if it is still there
    obtain ⟨oldest, hhead, -⟩ :=
      exists_oldest hrejected hw (hlimits w (List.mem_of_getElem? hw)) hfull
    have hreset := (Counter.min_lt_resetAt w now hhead).1
    have hlatest := h.latest i w hw hfull
    have hpast : oldest + w.millis < t := by omega
    rcases Nat.lt_or_ge (cs'.counter ⟨b, i⟩).length
      ((cs.check b (ws b.policy) now).2.counter ⟨b, i⟩).length with hshorter | hsame
    · omega
    · have heq := (hsuffix i).eq_of_length_le hsame
      have hlost := Counter.length_current_lt (heq ▸ hhead) hpast
      omega

/-- The reset that a rejected request is told lies ahead. -/
theorem Exhausted.lt_resetAt {tightest : WindowState} {l : List Window}
    (h : Exhausted b l now cs tightest) (hlimits : ∀ w ∈ l, 1 ≤ w.limit)
    (hrejected : (cs.check b l now).1.allowed = false) (hnow : now ≤ maxWord) :
    now < tightest.resetAt * 1000 := by
  obtain ⟨i, w, hw, hfull, hreset⟩ := h.counter
  obtain ⟨oldest, hhead, hle⟩ :=
    exists_oldest hrejected hw (hlimits w (List.mem_of_getElem? hw)) hfull
  have hafter := (Counter.min_lt_resetAt w now hhead).1
  rw [hreset]
  omega

end Counters

namespace Operation

/-- **The reset and the seconds to wait are exact.**  After any run of operations that go by
fixed windows, at whatever times, let a request of a bucket be turned away.  From then on
let the clock not go back and nothing be reset.  Every request of the bucket is turned away
until a second before the reset of the tightest window; from the reset on, the next one is
admitted unless one has been admitted meanwhile, whatever else happens; and the seconds to
wait are the least that lead up to the reset. -/
theorem rejected_until_reset (ws : String → List Window)
    (hlimits : ∀ policy, ∀ w ∈ ws policy, 1 ≤ w.limit) (past : List Operation)
    (hpast : ∀ op ∈ past, op.Fits ws) (b : Bucket) (now : Nat) (hnow : now ≤ maxWord)
    (hrejected : ((run {} past).2.check b (ws b.policy) now).1.allowed = false) :
    let o := (run {} past).2.check b (ws b.policy) now
    ∃ tightest, o.1.mostRestrictive = some tightest ∧
      (∀ later t, (∀ op ∈ later, op.Fits ws ∧ op ≠ .reset) →
        (now :: (later.filterMap time? ++ [t])).Pairwise (· ≤ ·) →
        let v := ((run o.2 later).2.check b (ws b.policy) t).1
        (t ≤ (tightest.resetAt - 1) * 1000 → v.allowed = false) ∧
        (tightest.resetAt * 1000 ≤ maxWord → tightest.resetAt * 1000 ≤ t →
          (∀ a ∈ admissions later (run o.2 later).1, a.bucket ≠ b) → v.allowed = true)) ∧
      (tightest.resetAt * 1000 ≤ maxWord →
        let r := (Rejection.of (.ofState tightest) now).retryAfter
        1 ≤ r ∧ tightest.resetAt * 1000 ≤ now + 1000 * r ∧
          now + 1000 * (r - 1) < tightest.resetAt * 1000) := by
  intro o
  have hkeeps := (Counters.keepsLimits_empty ws).run hpast
  obtain ⟨tightest, hexhausted⟩ := Counters.exists_exhausted hrejected
  refine ⟨tightest, hexhausted.found, fun later t hlater hclock => ⟨fun ht => ?_,
    fun hword ht hnone => ?_⟩, fun hword => ?_⟩
  · obtain ⟨i, w, c, hfull⟩ := hexhausted.fullUntil (hlimits b.policy) hrejected
    have htimes : ∀ t' ∈ later.filterMap time?, t' ≤ (tightest.resetAt - 1) * 1000 := by
      intro t' ht'
      have hle := (List.pairwise_append.1 hclock.of_cons).2.2 t' ht' t (List.mem_singleton_self t)
      omega
    exact (hfull.run hlater htimes).not_allowed ht
  · exact hexhausted.allowed (hlimits b.policy) hrejected hkeeps hword
      (Counters.counter_run_suffix (fun op hop => (hlater op hop).2) hnone) ht
  · exact Rejection.retryAfter_least hword
      (hexhausted.lt_resetAt (hlimits b.policy) hrejected hnow)

/-- Two windows and a clock that went back by a second: the shorter window turns a request
away at 4500 and resets at 7000.  At 6000 it still turns requests away, at 7000 it does not,
and from 4500 it takes three seconds to get there. -/
theorem rejected_until_reset_after_step_back :
    let ws : String → List Window := fun _ => [⟨2, 1⟩, ⟨3, 10⟩]
    let b : Bucket := ⟨"GET:/x", "user:a"⟩
    let past : List Operation := [.check b (ws b.policy) 5000, .check b (ws b.policy) 4000]
    let later : List Operation := [.check ⟨"GET:/x", "user:b"⟩ (ws "GET:/x") 5000,
      .recorded ⟨b, 0⟩ ⟨2, 1⟩ 5500, .check b (ws b.policy) 6000]
    let o := (run {} past).2.check b (ws b.policy) 4500
    (∀ policy, ∀ w ∈ ws policy, 1 ≤ w.limit) ∧ (∀ op ∈ past, op.Fits ws) ∧
      4500 ≤ maxWord ∧ o.1.allowed = false ∧
      (∀ op ∈ later, op.Fits ws ∧ op ≠ .reset) ∧
      (4500 :: (later.filterMap time? ++ [7000])).Pairwise (· ≤ ·) ∧
      (∀ a ∈ admissions later (run o.2 later).1, a.bucket ≠ b) ∧
      ((run o.2 []).2.check b (ws b.policy) 6000).1.allowed = false ∧
      ((run o.2 later).2.check b (ws b.policy) 7000).1.allowed = true ∧
      4500 + 1000 * (3 - 1) < 7000 := by
  intro ws b past later o
  have hlimits : ∀ policy, ∀ w ∈ ws policy, 1 ≤ w.limit := fun _ => by decide
  have hpast : ∀ op ∈ past, op.Fits ws := by decide
  have hrejected : o.1.allowed = false := by decide +kernel
  have hlater : ∀ op ∈ later, op.Fits ws ∧ op ≠ .reset := by decide
  have hclock : (4500 :: (later.filterMap time? ++ [7000])).Pairwise (· ≤ ·) := by decide
  have hnone : ∀ a ∈ admissions later (run o.2 later).1, a.bucket ≠ b := by decide +kernel
  obtain ⟨tightest, hfound, hchecks, hwait⟩ :=
    rejected_until_reset ws hlimits past hpast b 4500 (by decide) hrejected
  obtain rfl : tightest = ⟨2, 0, 7, 1⟩ := by
    have hstate : o.1.mostRestrictive = some ⟨2, 0, 7, 1⟩ := by decide +kernel
    exact Option.some.inj (hfound.symm.trans hstate)
  exact ⟨hlimits, hpast, by decide, hrejected, hlater, hclock, hnone,
    (hchecks [] 6000 nofun (by decide)).1 (by decide),
    (hchecks later 7000 hlater hclock).2 (by decide) (by decide) hnone,
    (hwait (by decide)).2.2⟩

end Operation
end Turnstile
