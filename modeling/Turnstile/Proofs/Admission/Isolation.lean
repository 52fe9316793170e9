/-
# Buckets keep out of each other's way

All counters stand in one register, and a check goes through several of them: it brings
them up to date, forgets those that are empty and adds to them.  Still, what an operation on
a bucket answers and what it leaves under the keys of the bucket depends on nothing but what
stood there, and it leaves everything else alone.  So nobody can tell from the operations on
some buckets whether there were any on others, however the clock goes and with whatever
windows they are performed.
-/
import Turnstile.Proofs.Admission.Counters
import Turnstile.Proofs.Omission

namespace Turnstile

namespace Counters

variable {S : Bucket → Bool} {cs cs' : Counters} {b : Bucket} {ws : List Window} {now : Nat}
  {k : CounterKey}

/-! ## What stands under a key -/

/-- What a refresh leaves of what stands under the key of its window. -/
def refreshed (now : Nat) (w : Window) (c? : Option Counter) : Option Counter :=
  c?.bind fun c =>
    match c.current w now with
    | [] => none
    | t :: ts => some (t :: ts)

theorem get?_refresh (now : Nat) (cs : Counters) (slot : CounterKey × Window) (k : CounterKey) :
    (cs.refresh now slot).register.get? k =
      if slot.1 = k then refreshed now slot.2 (cs.register.get? k) else cs.register.get? k := by
  cases hget : cs.register.get? slot.1 with
  | none =>
    simp only [refresh, hget]
    split
    · next hk => rw [← hk, hget]; rfl
    · rfl
  | some c =>
    cases hcur : c.current slot.2 now with
    | nil =>
      simp only [refresh, hget, hcur, Register.get?_erase]
      split
      · next hk => simp [← hk, hget, refreshed, hcur]
      · rfl
    | cons t ts =>
      simp only [refresh, hget, hcur, Register.get?_insert]
      split
      · next hk => simp [← hk, hget, refreshed, hcur]
      · rfl

theorem get?_record (now : Nat) (cs : Counters) (slot : CounterKey × Window) (k : CounterKey) :
    (cs.record now slot).register.get? k =
      if slot.1 = k then some ((cs.register.get? k).getD [] ++ [now])
      else cs.register.get? k := by
  rw [record, Register.get?_insert]
  split
  · next hk => rw [← hk]; rfl
  · rfl

theorem get?_recorded (cs : Counters) (l k : CounterKey) (w : Window) (now : Nat) :
    (cs.recorded l w now).2.register.get? k =
      if l = k then (cs.register.get? k).map fun c => c.current w now
      else cs.register.get? k := by
  cases hget : cs.register.get? l with
  | none =>
    simp only [recorded, hget]
    split
    · next hk => rw [← hk, hget]; rfl
    · rfl
  | some c =>
    simp only [recorded, hget, Register.get?_insert]
    split
    · next hk => rw [← hk, hget]; rfl
    · rfl

/-! ## Walks over the windows of a policy -/

/-- A change made at every window of a policy is local if it leaves under the key of the
window what depends on nothing but what stood there, and everything else as it was. -/
def IsLocal (f : Counters → CounterKey × Window → Counters) : Prop :=
  ∃ g : Window → Option Counter → Option Counter, ∀ cs slot k,
    (f cs slot).register.get? k =
      if slot.1 = k then g slot.2 (cs.register.get? k) else cs.register.get? k

theorem isLocal_refresh (now : Nat) : IsLocal (refresh now) := ⟨_, get?_refresh now⟩

theorem isLocal_record (now : Nat) : IsLocal (record now) :=
  ⟨fun _ c? => some (c?.getD [] ++ [now]), get?_record now⟩

theorem IsLocal.foldl_congr {f : Counters → CounterKey × Window → Counters} (hf : IsLocal f)
    (hk : cs.register.get? k = cs'.register.get? k) (slots : List (CounterKey × Window)) :
    (slots.foldl f cs).register.get? k = (slots.foldl f cs').register.get? k := by
  obtain ⟨g, hg⟩ := hf
  induction slots generalizing cs cs' with
  | nil => exact hk
  | cons slot slots ih => exact ih (by rw [hg, hg, hk])

theorem IsLocal.foldl_of_ne {f : Counters → CounterKey × Window → Counters} (hf : IsLocal f)
    (cs : Counters) {slots : List (CounterKey × Window)} (hne : ∀ slot ∈ slots, slot.1 ≠ k) :
    (slots.foldl f cs).register.get? k = cs.register.get? k := by
  obtain ⟨g, hg⟩ := hf
  induction slots generalizing cs with
  | nil => rfl
  | cons slot slots ih =>
    rw [List.foldl_cons, ih _ fun slot' hslot' => hne slot' (by simp [hslot']), hg,
      if_neg (hne slot (by simp))]

/-- A check leaves everything alone that is not the counter of one of its windows. -/
theorem get?_check_of_windowOf?_eq_none (cs : Counters) (hk : windowOf? b ws k = none)
    (now : Nat) : (cs.check b ws now).2.register.get? k = cs.register.get? k := by
  have hne : ∀ slot ∈ slots b ws, slot.1 ≠ k := by
    rintro slot hslot rfl
    obtain ⟨i, w, hw, rfl⟩ := mem_slots_iff.1 hslot
    rw [windowOf?_self, hw] at hk
    cases hk
  rw [check_snd]
  split
  · rw [(isLocal_record now).foldl_of_ne _ hne, (isLocal_refresh now).foldl_of_ne _ hne]
  · rw [(isLocal_refresh now).foldl_of_ne _ hne]

/-- A check leaves everything alone that is not of its bucket. -/
theorem get?_check_of_ne (cs : Counters) (hk : k.bucket ≠ b) (ws : List Window) (now : Nat) :
    (cs.check b ws now).2.register.get? k = cs.register.get? k :=
  get?_check_of_windowOf?_eq_none cs (if_neg hk) now

/-! ## Agreement on some buckets -/

/-- Two sets of counters agree on some buckets if the same stands under every key of these
buckets, where an empty counter is not the same as none. -/
def AgreeOn (S : Bucket → Bool) (cs cs' : Counters) : Prop :=
  ∀ k, S k.bucket = true → cs.register.get? k = cs'.register.get? k

namespace AgreeOn

theorem refl (S : Bucket → Bool) (cs : Counters) : AgreeOn S cs cs := fun _ _ => rfl

theorem counter_eq (h : AgreeOn S cs cs') (hk : S k.bucket = true) :
    cs.counter k = cs'.counter k := by
  simp only [counter, Register.getD, h k hk]

theorem check_eq (h : AgreeOn S cs cs') (hb : S b = true) :
    (cs.check b ws now).1 = (cs'.check b ws now).1 :=
  (check_congr fun _ _ _ => by rw [h.counter_eq hb]).1

theorem check (h : AgreeOn S cs cs') (b : Bucket) (ws : List Window) (now : Nat) :
    AgreeOn S (cs.check b ws now).2 (cs'.check b ws now).2 := by
  intro k hk
  by_cases hb : k.bucket = b
  · -- the check has the same verdict on both sides, so both walks are the same
    rw [check_snd, check_snd, h.check_eq (hb ▸ hk)]
    have hfresh := (isLocal_refresh now).foldl_congr (h k hk) (slots b ws)
    split
    · exact (isLocal_record now).foldl_congr hfresh (slots b ws)
    · exact hfresh
  · rw [get?_check_of_ne cs hb, get?_check_of_ne cs' hb]
    exact h k hk

theorem recorded (h : AgreeOn S cs cs') (l : CounterKey) (w : Window) (now : Nat) :
    AgreeOn S (cs.recorded l w now).2 (cs'.recorded l w now).2 := by
  intro k hk
  rw [get?_recorded, get?_recorded, h k hk]

end AgreeOn
end Counters

namespace Operation

variable {S : Bucket → Bool} {cs cs' : Counters} {op : Operation}

/-- Whether an operation is on one of some buckets; a reset is on all of them. -/
def isOn (S : Bucket → Bool) (op : Operation) : Bool := op.bucket?.all S

/-- An operation keeps the agreement of counters on any buckets. -/
theorem perform_agreeOn (h : Counters.AgreeOn S cs cs') (op : Operation) :
    Counters.AgreeOn S (op.perform cs).2 (op.perform cs').2 := by
  cases op with
  | check b ws now => exact h.check b ws now
  | recorded k w now => exact h.recorded k w now
  | reset => exact .refl S _

/-- An operation on other buckets keeps it even if it is performed on one side only. -/
theorem perform_agreeOn_left (h : Counters.AgreeOn S cs cs') (hop : op.isOn S = false) :
    Counters.AgreeOn S (op.perform cs).2 cs' := by
  intro k hk
  cases op with
  | check b ws now =>
    have hne : k.bucket ≠ b := by
      rintro rfl
      exact Bool.false_ne_true (hop.symm.trans hk)
    exact (Counters.get?_check_of_ne cs hne ws now).trans (h k hk)
  | recorded l w now =>
    have hne : l ≠ k := by
      rintro rfl
      exact Bool.false_ne_true (hop.symm.trans hk)
    change (cs.recorded l w now).2.register.get? k = _
    rw [Counters.get?_recorded, if_neg hne]
    exact h k hk
  | reset => cases hop

/-- An operation on buckets on which the counters agree has the same answer on both. -/
theorem perform_answer_eq (h : Counters.AgreeOn S cs cs') (hop : op.isOn S = true) :
    (op.perform cs).1 = (op.perform cs').1 := by
  cases op with
  | check b ws now => exact congrArg Answer.verdict (h.check_eq hop)
  | recorded k w now =>
    have hk : S k.bucket = true := hop
    simp only [perform, Counters.recorded_count, h.counter_eq hk]
  | reset => rfl

theorem run_eq_runAll (cs : Counters) (ops : List Operation) :
    run cs ops = runAll perform cs ops := by
  induction ops generalizing cs with
  | nil => rfl
  | cons op ops ih => simp only [run, runAll_cons, ih]

/-- The operations on some buckets do not see those on others. -/
theorem unseen_isOn (S : Bucket → Bool) :
    Unseen perform (isOn S) (isOn S) fun _ => Counters.AgreeOn S where
  kept_of_seen _ h := h
  both h _ := perform_agreeOn h _
  alone h hop := perform_agreeOn_left h hop
  answer_eq h hop := perform_answer_eq h hop

/-- **Buckets are isolated.**  Whatever the times of a run of operations and the windows they
are performed with, the operations on a bucket have the answers that they have without all
operations on other buckets, and the counters of the bucket end up the same. -/
theorem answers_on_bucket_eq (cs : Counters) (b : Bucket) (ops : List Operation) :
    let own := ops.filter (isOn (· == b))
    answersTo (isOn (· == b)) ops (run cs ops).1 = (run cs own).1 ∧
      ∀ i, (run cs ops).2.register.get? ⟨b, i⟩ = (run cs own).2.register.get? ⟨b, i⟩ := by
  intro own
  have hstart := Counters.AgreeOn.refl (· == b) cs
  simp only [own, run_eq_runAll]
  refine ⟨(unseen_isOn _).answersTo_eq hstart, fun i => ?_⟩
  exact ((unseen_isOn _).run_filter hstart).2 ⟨b, i⟩ (beq_self_eq_true b)

end Operation
end Turnstile
