/-
# The history keeps all quotas

A request enters the history only if every window of its policy has fewer live times than
its limit.  From this alone it follows that no interval of the length of a window, wherever
it lies, ever holds more admissions of a bucket than the limit of the window: the one that
comes in last finds all others of the interval live.
-/
import Turnstile.Admission.History

namespace Turnstile

namespace Operation

/-- An operation goes by the windows that are fixed for every policy: a check is made
against all of them, and a count is asked for with the window at its place. -/
def Fits (ws : String → List Window) : Operation → Prop
  | check b l _ => l = ws b.policy
  | recorded k w _ => (ws k.bucket.policy)[k.index]? = some w
  | reset => True

instance (ws : String → List Window) : DecidablePred (Fits ws)
  | check b l _ => inferInstanceAs (Decidable (l = ws b.policy))
  | recorded k w _ => inferInstanceAs (Decidable ((ws k.bucket.policy)[k.index]? = some w))
  | reset => inferInstanceAs (Decidable True)

/-- The admission that an operation amounts to, given its answer. -/
def admission? : Operation → Answer → Option Admission
  | check b _ now, .verdict v => if v.allowed then some ⟨b, now⟩ else none
  | _, _ => none

/-- What a list of operations admits, given the answers to its operations. -/
def admissions (ops : List Operation) (as : List Answer) : History :=
  (List.zipWith admission? ops as).filterMap id

@[simp] theorem admissions_nil (as : List Answer) : admissions [] as = [] := rfl

theorem admissions_cons (op : Operation) (ops : List Operation) (a : Answer)
    (as : List Answer) :
    admissions (op :: ops) (a :: as) = (op.admission? a).toList ++ admissions ops as := by
  cases h : op.admission? a <;> simp [admissions, h]

/-- Answers to later operations make no difference. -/
theorem admissions_append_right {ops : List Operation} {as : List Answer}
    (hlen : as.length = ops.length) (as' : List Answer) :
    admissions ops (as ++ as') = admissions ops as := by
  have h : List.zipWith admission? (ops ++ []) (as ++ as') =
      List.zipWith admission? ops as ++ List.zipWith admission? [] as' :=
    List.zipWith_append hlen.symm
  rw [List.append_nil, List.zipWith_nil_left, List.append_nil] at h
  rw [admissions, admissions, h]

end Operation

namespace History

variable {ws : String → List Window} {h : History} {b : Bucket} {w : Window} {now : Nat}

/-- How many admissions of a bucket lie between two times, both included. -/
def countWithin (h : History) (b : Bucket) (first last : Int) : Nat :=
  h.countP fun a => decide (a.bucket = b ∧ first ≤ a.time ∧ a.time ≤ last)

/-- No interval of the length of a window holds more admissions than the window accepts. -/
def KeepsQuotas (ws : String → List Window) (h : History) : Prop :=
  ∀ b, ∀ w ∈ ws b.policy, ∀ first : Int,
    h.countWithin b first (first + 1000 * w.seconds) ≤ w.limit

theorem countWithin_append (h h' : History) (b : Bucket) (first last : Int) :
    countWithin (h ++ h') b first last =
      h.countWithin b first last + h'.countWithin b first last :=
  List.countP_append

theorem countWithin_singleton (a : Admission) (b : Bucket) (first last : Int) :
    countWithin [a] b first last =
      if a.bucket = b ∧ first ≤ a.time ∧ a.time ≤ last then 1 else 0 := by
  simp [countWithin, List.countP_singleton]

theorem length_live (h : History) (b : Bucket) (w : Window) (now : Nat) :
    (h.live b w now).length = h.countP fun a => decide (a.bucket = b) && isLive w now a.time := by
  rw [live, ← List.countP_eq_length_filter, List.countP_map, List.countP_filter]
  simp [Bool.and_comm]

/-- Whatever lies in an interval that reaches up to `now` is live now. -/
theorem countWithin_le_length_live {first : Int} (hnow : now ≤ first + 1000 * w.seconds) :
    h.countWithin b first (first + 1000 * w.seconds) ≤ (h.live b w now).length := by
  rw [length_live]
  apply List.countP_mono_left
  intro a _ ha
  simp only [decide_eq_true_eq, Bool.and_eq_true, isLive] at ha ⊢
  obtain ⟨hb, hfirst, -⟩ := ha
  exact ⟨hb, by omega⟩

/-- The live times at the end of a history never exceed the limit of a window. -/
theorem KeepsQuotas.length_live_le (hq : KeepsQuotas ws h) (hw : w ∈ ws b.policy)
    (hnow : ∀ a ∈ h, a.time ≤ now) : (h.live b w now).length ≤ w.limit := by
  refine Nat.le_trans ?_ (hq b w hw ((now : Int) - 1000 * w.seconds))
  rw [length_live]
  apply List.countP_mono_left
  intro a ha hlive
  have hle := hnow a ha
  simp only [decide_eq_true_eq, Bool.and_eq_true, isLive] at hlive ⊢
  obtain ⟨hb, hlive⟩ := hlive
  exact ⟨hb, by omega, by omega⟩

theorem keepsQuotas_nil (ws : String → List Window) : KeepsQuotas ws [] := by
  intro b w _ first
  exact Nat.zero_le _

/-- One more admission keeps the quotas if every window of its policy has room for it. -/
theorem KeepsQuotas.admit (hq : KeepsQuotas ws h) (hroom : h.admits b (ws b.policy) now = true) :
    KeepsQuotas ws (h ++ [Admission.mk b now]) := by
  intro b' w hw first
  rw [countWithin_append, countWithin_singleton]
  split
  · next hin =>
    obtain ⟨hb, -, hlast⟩ := hin
    obtain rfl : b = b' := hb
    simp only [admits, List.all_eq_true, decide_eq_true_eq] at hroom
    have hlive := hroom w hw
    have hle := countWithin_le_length_live (h := h) (b := b) hlast
    simp only at hle
    omega
  · exact hq b' w hw first

theorem KeepsQuotas.perform (hq : KeepsQuotas ws h) {op : Operation} (hfit : op.Fits ws) :
    KeepsQuotas ws (h.perform op).2 := by
  cases op with
  | check b l now =>
    obtain rfl : l = ws b.policy := hfit
    simp only [History.perform]
    split
    · next hroom => exact hq.admit hroom
    · exact hq
  | recorded k w now => exact hq
  | reset => exact keepsQuotas_nil ws

/-! ## Runs -/

theorem run_append (h : History) (xs ys : List Operation) :
    h.run (xs ++ ys) =
      ((h.run xs).1 ++ ((h.run xs).2.run ys).1, ((h.run xs).2.run ys).2) := by
  induction xs generalizing h with
  | nil => rfl
  | cons x xs ih => simp [run, ih]

theorem length_run (h : History) (ops : List Operation) :
    (h.run ops).1.length = ops.length := by
  induction ops generalizing h with
  | nil => rfl
  | cons op ops ih => simp [run, ih]

theorem KeepsQuotas.run (hq : KeepsQuotas ws h) {ops : List Operation}
    (hfit : ∀ op ∈ ops, op.Fits ws) : KeepsQuotas ws (h.run ops).2 := by
  induction ops generalizing h with
  | nil => exact hq
  | cons op ops ih =>
    exact ih (hq.perform (hfit op List.mem_cons_self))
      fun op' hop' => hfit op' (List.mem_cons_of_mem _ hop')

/-- An operation other than a reset adds to the history what it admits. -/
theorem perform_eq_append {op : Operation} (hop : op ≠ .reset) (h : History) :
    (h.perform op).2 = h ++ (op.admission? (h.perform op).1).toList := by
  cases op with
  | check b l now =>
    simp only [History.perform, Operation.admission?]
    split <;> simp_all
  | recorded k w now => simp [History.perform, Operation.admission?]
  | reset => exact absurd rfl hop

/-- Without a reset, a run adds to the history what its operations admit. -/
theorem run_eq_append {ops : List Operation} (hops : .reset ∉ ops) (h : History) :
    (h.run ops).2 = h ++ Operation.admissions ops (h.run ops).1 := by
  induction ops generalizing h with
  | nil => simp [run]
  | cons op ops ih =>
    have hop : op ≠ .reset := fun heq => hops (heq ▸ List.mem_cons_self)
    have hops' : .reset ∉ ops := fun hmem => hops (List.mem_cons_of_mem _ hmem)
    simp only [run, Operation.admissions_cons]
    rw [ih hops', perform_eq_append hop, List.append_assoc]

/-- No time in the history is later than all times of the run. -/
theorem time_le_of_mem_run {ops : List Operation} {last : Nat}
    (hh : ∀ a ∈ h, a.time ≤ last) (hops : ∀ t ∈ ops.filterMap Operation.time?, t ≤ last) :
    ∀ a ∈ (h.run ops).2, a.time ≤ last := by
  induction ops generalizing h with
  | nil => exact hh
  | cons op ops ih =>
    have hop : ∀ t ∈ op.time?, t ≤ last := fun t ht =>
      hops t (List.mem_filterMap.2 ⟨op, List.mem_cons_self, ht⟩)
    refine ih ?_ fun t ht => ?_
    · cases op with
      | check b l now =>
        dsimp only [History.perform]
        split
        · intro a ha
          rcases List.mem_append.1 ha with ha | ha
          · exact hh a ha
          · rw [List.mem_singleton.1 ha]
            exact hop now rfl
        · exact hh
      | recorded k w now => exact hh
      | reset => exact fun a ha => absurd ha List.not_mem_nil
    · obtain ⟨op', hop', ht'⟩ := List.mem_filterMap.1 ht
      exact hops t (List.mem_filterMap.2 ⟨op', List.mem_cons_of_mem _ hop', ht'⟩)

end History
end Turnstile
