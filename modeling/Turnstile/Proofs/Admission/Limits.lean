/-
# How full a counter can be

Whatever the clock does, no counter ever holds more times than its window accepts: a time
is added only where there was room.  As long as requests of a bucket are turned away, its
counters only lose times from the front; and a counter loses none before its oldest time
has left the window.
-/
import Turnstile.Proofs.Admission.Counters
import Turnstile.Proofs.Admission.Quota

namespace Turnstile

/-! ## One counter -/

namespace Counter

variable {w : Window} {now : Nat} {c : Counter}

/-- The oldest time that is left after bringing a counter up to date is not past. -/
theorem le_of_head?_current {oldest : Nat} (h : (c.current w now).head? = some oldest) :
    now ≤ oldest + w.millis := by
  have hnot := List.head?_dropWhile_not (isPast w now) c
  rw [current] at h
  rw [h] at hnot
  simp only [isPast, decide_eq_false_iff_not] at hnot
  omega

/-- A counter loses nothing while its oldest time is not past. -/
theorem current_eq_self {oldest : Nat} (h : c.head? = some oldest)
    (hnow : now ≤ oldest + w.millis) : c.current w now = c := by
  cases c with
  | nil => rfl
  | cons t ts =>
    obtain rfl : t = oldest := Option.some.inj h
    have hnot : ¬isPast w now t = true := by
      simp only [isPast, decide_eq_true_eq]
      omega
    rw [current, List.dropWhile_cons, if_neg hnot]

/-- A counter whose oldest time is past loses at least that one. -/
theorem length_current_lt {oldest : Nat} (h : c.head? = some oldest)
    (hnow : oldest + w.millis < now) : (c.current w now).length < c.length := by
  cases c with
  | nil => cases h
  | cons t ts =>
    obtain rfl : t = oldest := Option.some.inj h
    have hpast : isPast w now t = true := by
      simp only [isPast, decide_eq_true_eq]
      omega
    rw [current, List.dropWhile_cons, if_pos hpast]
    exact Nat.lt_succ_of_le (length_current_le w now ts)

/-- The reset is the whole second after the oldest time has left the window. -/
theorem min_lt_resetAt (w : Window) (now : Nat) {oldest : Nat} (h : c.head? = some oldest) :
    min (oldest + w.millis) maxWord < resetAt w now c * 1000 ∧
      (resetAt w now c - 1) * 1000 ≤ min (oldest + w.millis) maxWord := by
  rw [resetAt, h, Option.getD_some, cappedAdd]
  omega

end Counter

/-! ## All counters -/

namespace Counters

variable {ws : String → List Window} {cs : Counters} {b : Bucket} {now : Nat}

/-- No counter holds more times than its window accepts. -/
def KeepsLimits (ws : String → List Window) (cs : Counters) : Prop :=
  ∀ b i w, (ws b.policy)[i]? = some w → (cs.counter ⟨b, i⟩).length ≤ w.limit

theorem keepsLimits_empty (ws : String → List Window) : KeepsLimits ws {} :=
  fun _ _ _ _ => Nat.zero_le _

theorem KeepsLimits.check (h : KeepsLimits ws cs) (b : Bucket) (now : Nat) :
    KeepsLimits ws (cs.check b (ws b.policy) now).2 := by
  intro b' i w hw
  by_cases hb : b' = b
  · subst hb
    rw [counter_check_self cs hw]
    split
    · next hallowed =>
      rw [List.length_append, List.length_singleton]
      exact check_allowed_iff.1 hallowed i w hw
    · exact Nat.le_trans (Counter.length_current_le w now _) (h b' i w hw)
  · rw [counter_check_of_ne cs hb]
    exact h b' i w hw

theorem KeepsLimits.perform (h : KeepsLimits ws cs) {op : Operation} (hfit : op.Fits ws) :
    KeepsLimits ws (op.perform cs).2 := by
  cases op with
  | check b l now =>
    obtain rfl : l = ws b.policy := hfit
    exact h.check b now
  | recorded k w now =>
    intro b' i w' hw'
    change ((cs.recorded k w now).2.counter ⟨b', i⟩).length ≤ w'.limit
    rw [counter_recorded]
    split
    · exact Nat.le_trans (Counter.length_current_le w now _) (h b' i w' hw')
    · exact h b' i w' hw'
  | reset => exact keepsLimits_empty ws

/-- Runs that go by fixed windows keep all counters within their limits, whatever the times
of their operations. -/
theorem KeepsLimits.run (h : KeepsLimits ws cs) {ops : List Operation}
    (hfit : ∀ op ∈ ops, op.Fits ws) : KeepsLimits ws (Operation.run cs ops).2 :=
  Operation.run_preserves (fun h hfit => h.perform hfit) h hfit

/-! ## Checks that are turned away -/

/-- A request is turned away if some window has no room for it. -/
theorem check_not_allowed_iff {l : List Window} :
    (cs.check b l now).1.allowed = false ↔
      ∃ i w, l[i]? = some w ∧ w.limit ≤ ((cs.counter ⟨b, i⟩).current w now).length := by
  rw [← Bool.not_eq_true, check_allowed_iff]
  simp only [Classical.not_forall, Nat.not_lt, exists_prop]

/-- A request that is turned away leaves its counters up to date and nothing else. -/
theorem counter_check_of_not_allowed {l : List Window}
    (hrejected : (cs.check b l now).1.allowed = false) {i : Nat} {w : Window}
    (hw : l[i]? = some w) :
    (cs.check b l now).2.counter ⟨b, i⟩ = (cs.counter ⟨b, i⟩).current w now := by
  rw [counter_check_self cs hw, hrejected]
  rfl

/-- Unless it admits a request of a bucket, an operation takes times from the front of the
counters of the bucket and adds none. -/
theorem counter_perform_suffix {op : Operation} (hop : op ≠ .reset)
    (hnone : ∀ a ∈ op.admission? (op.perform cs).1, a.bucket ≠ b) (i : Nat) :
    (op.perform cs).2.counter ⟨b, i⟩ <:+ cs.counter ⟨b, i⟩ := by
  cases op with
  | check b' l now =>
    change (cs.check b' l now).2.counter ⟨b, i⟩ <:+ _
    rw [counter_check]
    cases hw : windowOf? b' l ⟨b, i⟩ with
    | none => exact List.suffix_refl _
    | some w =>
      have hb : b = b' := Classical.byContradiction fun hne => by
        rw [windowOf?, if_neg hne] at hw
        cases hw
      have hrejected : ¬(cs.check b' l now).1.allowed = true := by
        intro hallowed
        refine hnone ⟨b', now⟩ ?_ hb.symm
        exact if_pos hallowed
      rw [Option.elim_some, if_neg hrejected]
      exact Counter.current_suffix w now _
  | recorded k w now =>
    change (cs.recorded k w now).2.counter ⟨b, i⟩ <:+ _
    rw [counter_recorded]
    split
    · exact Counter.current_suffix w now _
    · exact List.suffix_refl _
  | reset => exact absurd rfl hop

theorem counter_run_suffix {ops : List Operation} (hops : ∀ op ∈ ops, op ≠ .reset)
    (hnone : ∀ a ∈ Operation.admissions ops (Operation.run cs ops).1, a.bucket ≠ b) (i : Nat) :
    (Operation.run cs ops).2.counter ⟨b, i⟩ <:+ cs.counter ⟨b, i⟩ := by
  induction ops generalizing cs with
  | nil => exact List.suffix_refl _
  | cons op ops ih =>
    simp only [Operation.run, Operation.admissions_cons, List.mem_append,
      Option.mem_toList] at hnone
    have hhead : (op.perform cs).2.counter ⟨b, i⟩ <:+ cs.counter ⟨b, i⟩ :=
      counter_perform_suffix (hops op List.mem_cons_self) (fun a ha => hnone a (.inl ha)) i
    exact (ih (fun op' hop' => hops op' (List.mem_cons_of_mem _ hop'))
      (fun a ha => hnone a (.inr ha))).trans hhead

/-- A counter that is full, up to a time at which its oldest entry still counts. -/
structure FullUntil (ws : String → List Window) (cs : Counters) (k : CounterKey) (w : Window)
    (last : Nat) (c : Counter) : Prop where
  window : (ws k.bucket.policy)[k.index]? = some w
  counter : cs.counter k = c
  full : w.limit ≤ c.length
  current : ∀ t ≤ last, c.current w t = c

/-- A request that meets a full counter is turned away. -/
theorem FullUntil.not_allowed {k : CounterKey} {w : Window} {last : Nat} {c : Counter}
    (h : FullUntil ws cs k w last c) {t : Nat} (ht : t ≤ last) :
    (cs.check k.bucket (ws k.bucket.policy) t).1.allowed = false := by
  refine check_not_allowed_iff.2 ⟨k.index, w, h.window, ?_⟩
  rw [h.counter, h.current t ht]
  exact h.full

/-- Until its oldest entry has left the window, a full counter stays as it is. -/
theorem FullUntil.perform {k : CounterKey} {w : Window} {last : Nat} {c : Counter}
    (h : FullUntil ws cs k w last c) {op : Operation} (hfit : op.Fits ws) (hop : op ≠ .reset)
    (htime : ∀ t ∈ op.time?, t ≤ last) : FullUntil ws (op.perform cs).2 k w last c := by
  refine ⟨h.window, ?_, h.full, h.current⟩
  cases op with
  | check b l now =>
    obtain rfl : l = ws b.policy := hfit
    have hnow : now ≤ last := htime now rfl
    by_cases hb : k.bucket = b
    · subst hb
      have hcheck := counter_check_of_not_allowed (h.not_allowed hnow) h.window
      rw [h.counter, h.current now hnow] at hcheck
      exact hcheck
    · exact (counter_check_of_ne cs hb (ws b.policy) now).trans h.counter
  | recorded l v now =>
    change (cs.recorded l v now).2.counter k = c
    rw [counter_recorded, h.counter]
    split
    · next hk =>
      subst hk
      obtain rfl : v = w := Option.some.inj (Eq.trans (Eq.symm hfit) h.window)
      exact h.current now (htime now rfl)
    · rfl
  | reset => exact absurd rfl hop

theorem FullUntil.run {k : CounterKey} {w : Window} {last : Nat} {c : Counter}
    (h : FullUntil ws cs k w last c) {ops : List Operation}
    (hops : ∀ op ∈ ops, op.Fits ws ∧ op ≠ .reset)
    (htimes : ∀ t ∈ ops.filterMap Operation.time?, t ≤ last) :
    FullUntil ws (Operation.run cs ops).2 k w last c := by
  have hkind : ∀ op ∈ ops, (op.Fits ws ∧ op ≠ .reset) ∧ ∀ t ∈ op.time?, t ≤ last :=
    fun op hop => ⟨hops op hop, fun t ht => htimes t (List.mem_filterMap.2 ⟨op, hop, ht⟩)⟩
  exact Operation.run_preserves (P := fun cs => FullUntil ws cs k w last c)
    (fun h ⟨⟨hfit, hop⟩, htime⟩ => h.perform hfit hop htime) h hkind

end Counters
end Turnstile
