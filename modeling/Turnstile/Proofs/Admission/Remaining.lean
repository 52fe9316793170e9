/-
# The remaining requests

An admitted request is told how many more fit into the tightest window.  That many really
do: a counter grows by one at most with a check of its bucket and never with anything else,
so every window has room for as long as fewer checks have come.  And no more do: at one and
the same time nothing leaves a counter any more once it is up to date, so as many checks fill
the tightest window.

Both hold of any counters whatsoever, not only of those that a run can lead to.
-/
import Turnstile.Proofs.Admission.Refinement
import Turnstile.Proofs.Admission.Waiting

namespace Turnstile

/-! ## Nothing leaves at the same time again -/

theorem Counter.current_append_self (w : Window) (now : Nat) (c : Counter) :
    (c.current w now ++ [now]).current w now = c.current w now ++ [now] := by
  rw [current_append, current_current (Nat.le_refl now)]
  split
  · next hnil =>
    rw [hnil]
    exact current_eq_self rfl (Nat.le_add_right _ _)
  · rfl

namespace Operation

/-- Whether an operation is a check of a bucket. -/
def isCheckOf (b : Bucket) : Operation → Bool
  | check b' _ _ => b' == b
  | recorded _ _ _ => false
  | reset => false

end Operation

namespace Counters

variable {cs : Counters} {b : Bucket} {ws : List Window} {now : Nat} {tightest : WindowState}

/-- The counters that a check leaves are up to date at its time. -/
theorem current_counter_check {i : Nat} {w : Window} (hw : ws[i]? = some w) :
    ((cs.check b ws now).2.counter ⟨b, i⟩).current w now =
      (cs.check b ws now).2.counter ⟨b, i⟩ := by
  rw [counter_check_self cs hw]
  split
  · exact Counter.current_append_self w now _
  · exact Counter.current_current (Nat.le_refl now) _

/-! ## How fast a counter grows -/

/-- A check of its bucket adds one time to a counter at most, any other operation none. -/
theorem length_counter_perform_le (cs : Counters) (b : Bucket) (i : Nat) (op : Operation) :
    ((op.perform cs).2.counter ⟨b, i⟩).length ≤
      (cs.counter ⟨b, i⟩).length + if op.isCheckOf b then 1 else 0 := by
  cases op with
  | check b' l now =>
    change ((cs.check b' l now).2.counter ⟨b, i⟩).length ≤ _
    by_cases hb : b' = b
    · subst hb
      rw [counter_check, windowOf?_self, Operation.isCheckOf, beq_self_eq_true, if_pos rfl]
      cases l[i]? with
      | none => exact Nat.le_succ _
      | some w =>
        have hcurrent := Counter.length_current_le w now (cs.counter ⟨b', i⟩)
        rw [Option.elim_some]
        split
        · rw [List.length_append, List.length_singleton]
          omega
        · omega
    · rw [counter_check_of_ne cs fun h => hb h.symm]
      exact Nat.le_add_right _ _
  | recorded k w now =>
    change ((cs.recorded k w now).2.counter ⟨b, i⟩).length ≤ _
    rw [counter_recorded]
    split
    · exact Counter.length_current_le w now _
    · exact Nat.le_refl _
  | reset => exact Nat.zero_le _

theorem length_counter_run_le (cs : Counters) (b : Bucket) (i : Nat) (ops : List Operation) :
    ((Operation.run cs ops).2.counter ⟨b, i⟩).length ≤
      (cs.counter ⟨b, i⟩).length + ops.countP (Operation.isCheckOf b) := by
  induction ops generalizing cs with
  | nil => exact Nat.le_refl _
  | cons op ops ih =>
    have hstep := length_counter_perform_le cs b i op
    have hrest := ih (op.perform cs).2
    rw [List.countP_cons]
    change ((Operation.run (op.perform cs).2 ops).2.counter ⟨b, i⟩).length ≤ _
    omega

/-! ## What an admitted request is told -/

/-- A request is admitted only if its counters stay within the limits with it, and so every
window has as much room left as the tightest one reports. -/
theorem length_add_remaining_le (hallowed : (cs.check b ws now).1.allowed = true)
    (hfound : (cs.check b ws now).1.mostRestrictive = some tightest) {i : Nat} {w : Window}
    (hw : ws[i]? = some w) :
    ((cs.check b ws now).2.counter ⟨b, i⟩).length + tightest.remaining ≤ w.limit := by
  have htight := (WindowState.mostRestrictive_eq_some hfound).2 _
    (List.mem_of_getElem? (getElem?_windows_check hw))
  have hle := htight.remaining_le
  have hroom := check_allowed_iff.1 hallowed i w hw
  have hlen : ((cs.check b ws now).2.counter ⟨b, i⟩).length ≤ w.limit := by
    rw [counter_check_self cs hw, if_pos hallowed, List.length_append, List.length_singleton]
    exact hroom
  simp only [Counter.state] at hle
  omega

/-- Some window has no more room left than the tightest one reports. -/
theorem exists_limit_le (hfound : (cs.check b ws now).1.mostRestrictive = some tightest) :
    ∃ i w, ws[i]? = some w ∧
      w.limit ≤ ((cs.check b ws now).2.counter ⟨b, i⟩).length + tightest.remaining := by
  have hmem := (WindowState.mostRestrictive_eq_some hfound).1
  rw [check_windows, List.mem_map] at hmem
  obtain ⟨⟨w, i⟩, hslot, rfl⟩ := hmem
  refine ⟨i, w, List.mem_zipIdx_iff_getElem?.1 hslot, ?_⟩
  simp only [Counter.state]
  omega

/-- Every window has room until as many checks of the bucket have come as were reported. -/
theorem allowed_of_countP_lt (hallowed : (cs.check b ws now).1.allowed = true)
    (hfound : (cs.check b ws now).1.mostRestrictive = some tightest) {later : List Operation}
    (hlater : later.countP (Operation.isCheckOf b) < tightest.remaining) (t : Nat) :
    ((Operation.run (cs.check b ws now).2 later).2.check b ws t).1.allowed = true := by
  refine check_allowed_iff.2 fun i w hw => ?_
  have hroom := length_add_remaining_le hallowed hfound hw
  have hgrown := length_counter_run_le (cs.check b ws now).2 b i later
  have hcurrent := Counter.length_current_le w t
    ((Operation.run (cs.check b ws now).2 later).2.counter ⟨b, i⟩)
  omega

/-- As many checks at the same time are all recorded. -/
theorem length_counter_run_replicate (hallowed : (cs.check b ws now).1.allowed = true)
    (hfound : (cs.check b ws now).1.mostRestrictive = some tightest) {i : Nat} {w : Window}
    (hw : ws[i]? = some w) {n : Nat} (hn : n ≤ tightest.remaining) :
    let c := (Operation.run (cs.check b ws now).2
      (List.replicate n (.check b ws now))).2.counter ⟨b, i⟩
    c.current w now = c ∧
      c.length = ((cs.check b ws now).2.counter ⟨b, i⟩).length + n := by
  induction n with
  | zero => exact ⟨current_counter_check hw, rfl⟩
  | succ n ih =>
    obtain ⟨hcurrent, hlen⟩ := ih (Nat.le_of_succ_le hn)
    have hcount : (List.replicate n (Operation.check b ws now)).countP (Operation.isCheckOf b) =
        n := by
      rw [List.countP_replicate, Operation.isCheckOf, beq_self_eq_true, if_pos rfl]
    have hnext := allowed_of_countP_lt hallowed hfound (by rw [hcount]; exact hn) now
    rw [List.replicate_succ', Operation.run_append]
    refine ⟨current_counter_check hw, ?_⟩
    change ((Counters.check b ws now _).2.counter ⟨b, i⟩).length = _
    rw [counter_check_self _ hw, if_pos hnext, hcurrent, List.length_append, hlen,
      List.length_singleton, Nat.add_assoc]

/-- A request that is turned away is told that nothing remains. -/
theorem Exhausted.remaining_eq_zero (h : Exhausted b ws now cs tightest) :
    tightest.remaining = 0 := by
  obtain ⟨i, w, hw, hfull, -⟩ := h.counter
  have htight := (WindowState.mostRestrictive_eq_some h.found).2 _
    (List.mem_of_getElem? (getElem?_windows_check hw))
  have hle := htight.remaining_le
  simp only [Counter.state] at hle
  omega

end Counters

namespace Operation

/-- **The remaining requests are there, and no others.**  Let a request of a bucket be
admitted and the tightest window report what remains.  Then every check of the bucket is
admitted that comes after fewer checks of the bucket than remained, at whatever time and
whatever else is done in between; and after as many checks at the same time, with nothing
else in between, the next one is turned away and told that nothing remains. -/
theorem remaining_truthful (cs : Counters) (b : Bucket) (ws : List Window) (now : Nat)
    {tightest : WindowState} (hallowed : (cs.check b ws now).1.allowed = true)
    (hfound : (cs.check b ws now).1.mostRestrictive = some tightest) :
    let after := (cs.check b ws now).2
    (∀ later t, later.countP (isCheckOf b) < tightest.remaining →
        ((run after later).2.check b ws t).1.allowed = true) ∧
      let last := (run after (List.replicate tightest.remaining (.check b ws now))).2
      (last.check b ws now).1.allowed = false ∧
        ∃ s, (last.check b ws now).1.mostRestrictive = some s ∧ s.remaining = 0 := by
  intro after
  refine ⟨fun later t hlater => Counters.allowed_of_countP_lt hallowed hfound hlater t, ?_⟩
  intro last
  have hrejected : (last.check b ws now).1.allowed = false := by
    obtain ⟨i, w, hw, hlimit⟩ := Counters.exists_limit_le hfound
    obtain ⟨hcurrent, hlen⟩ :=
      Counters.length_counter_run_replicate hallowed hfound hw (Nat.le_refl _)
    refine Counters.check_not_allowed_iff.2 ⟨i, w, hw, ?_⟩
    rw [hcurrent, hlen]
    exact hlimit
  obtain ⟨s, hs⟩ := Counters.exists_exhausted hrejected
  exact ⟨hrejected, s, hs.found, hs.remaining_eq_zero⟩

/-- Two windows and a clock that went back by a second: the third request is told that two
remain, in the shorter window.  The second one after it is admitted, although the clock goes
back to 3 and somebody else's request and a count with a foreign window come in between.  If
both come at the same time as the third one, the next one is turned away. -/
theorem remaining_truthful_after_step_back :
    let ws : List Window := [⟨5, 1⟩, ⟨6, 10⟩]
    let b : Bucket := ⟨"GET:/x", "user:a"⟩
    let cs := (run {} [.check b ws 5000, .check b ws 4000]).2
    let after := (cs.check b ws 4500).2
    let later : List Operation :=
      [.check ⟨"GET:/x", "user:b"⟩ ws 1, .recorded ⟨b, 1⟩ ⟨1, 1⟩ 9000, .check b ws 4600]
    let last := (run after (List.replicate 2 (.check b ws 4500))).2
    (cs.check b ws 4500).1.allowed = true ∧
      (cs.check b ws 4500).1.mostRestrictive = some ⟨5, 2, 7, 1⟩ ∧
      later.countP (isCheckOf b) < 2 ∧
      ((run after later).2.check b ws 3).1.allowed = true ∧
      (last.check b ws 4500).1.allowed = false ∧
      ∃ s, (last.check b ws 4500).1.mostRestrictive = some s ∧ s.remaining = 0 := by
  intro ws b cs after later last
  have hallowed : (cs.check b ws 4500).1.allowed = true := by decide +kernel
  have hfound : (cs.check b ws 4500).1.mostRestrictive = some ⟨5, 2, 7, 1⟩ := by
    decide +kernel
  obtain ⟨hnext, hlast⟩ := remaining_truthful cs b ws 4500 hallowed hfound
  exact ⟨hallowed, hfound, by decide, hnext later 3 (by decide), hlast⟩

end Operation
end Turnstile
