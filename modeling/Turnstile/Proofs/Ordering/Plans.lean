/-
# When there is a plan, and what it says

The planner makes a plan exactly of arranged rows, and only for a move whose origin and
target are both among their positions; whatever else it is given, it reports as an internal
error.  A plan names every row once, with the position that the shift of the move gives it,
in the sequence of these new positions.  As every new position tells the old one and so the
row, the sequence in which the rows are listed makes no difference.
-/
import Turnstile.Proofs.Ordering.Positions

namespace Turnstile

variable {items items' : List Item} {origin target : Int}

theorem planMove_eq_ok_iff {plan : List (Int × Int)} :
    planMove items origin target = .ok plan ↔
      (Arranged items ∧ origin ∈ positions items.length ∧ target ∈ positions items.length) ∧
        planOf items origin target = plan := by
  simp only [planMove, ← isArranged_iff, ← isPosition_iff]
  cases isArranged items <;> cases isPosition items.length origin <;>
    cases isPosition items.length target <;> simp

/-- Whatever is wrong with the rows or with the move, the planner reports it as internal. -/
theorem isInternal_of_planMove {fault : MoveFault}
    (h : planMove items origin target = .error fault) : ∃ what, fault.toError = .internal what := by
  rw [planMove] at h
  split at h
  · cases h
    exact ⟨_, rfl⟩
  · split at h
    · cases h
      exact ⟨_, rfl⟩
    · cases h

/-- A plan names every row once, with the position where the shift takes it. -/
theorem planOf_perm (h : Arranged items) (ho : origin ∈ positions items.length)
    (ht : target ∈ positions items.length) :
    (planOf items origin target).Perm
      (items.map fun i => (i.id, shifted origin target i.order)) := by
  -- no position comes twice on either side, so it is enough to compare the members
  have hplan : (planOf items origin target).Nodup := by
    apply List.Nodup.of_map Prod.snd
    rw [map_snd_planOf h ho ht]
    exact nodup_positions _
  have hshift : (items.map fun i => (i.id, shifted origin target i.order)).Nodup := by
    apply List.Nodup.of_map Prod.snd
    have horders : (items.map fun i => (i.id, shifted origin target i.order)).map Prod.snd =
        (items.map Item.order).map (shifted origin target) := by
      simp [Function.comp_def]
    rw [horders]
    exact h.nodup.map (shifted_injective origin target)
  refine (List.perm_ext_iff_of_nodup hplan hshift).2 fun p => ?_
  rw [mem_planOf_iff h ho ht, List.mem_map]
  constructor
  · rintro ⟨i, hi, rfl⟩
    exact ⟨i, hi, rfl⟩
  · rintro ⟨i, hi, rfl⟩
    exact ⟨i, hi, rfl⟩

/-! ## The sequence of the rows -/

/-- Which row is at a position does not depend on the sequence of arranged rows. -/
theorem idAt?_perm (h : Arranged items) (hp : items.Perm items') (p : Int) :
    idAt? items' p = idAt? items p := by
  apply Option.ext
  intro id
  rw [idAt?_eq_some_iff h, idAt?_eq_some_iff (h.perm hp)]
  constructor
  · rintro ⟨i, hi, hid⟩
    exact ⟨i, hp.mem_iff.2 hi, hid⟩
  · rintro ⟨i, hi, hid⟩
    exact ⟨i, hp.mem_iff.1 hi, hid⟩

theorem isArranged_perm (hp : items.Perm items') : isArranged items' = isArranged items := by
  rw [Bool.eq_iff_iff, isArranged_iff, isArranged_iff]
  exact (arranged_congr hp).symm

theorem planMove_perm (hp : items.Perm items') :
    planMove items' origin target = planMove items origin target := by
  by_cases h : Arranged items
  · simp only [planMove, planOf, isArranged_perm hp, ← hp.length_eq, idAt?_perm h hp]
  · have hnot : isArranged items = false := Bool.eq_false_iff.2 (isArranged_iff.not.2 h)
    rw [planMove, planMove, isArranged_perm hp, hnot]
    rfl

/-- **The planner is exact.**  There is a plan if and only if the positions of the rows are 1
to N in any sequence and origin and target are among them; otherwise the planner reports an
internal error.  A plan has as many entries as there are rows, its new positions are 1 to N
in this sequence, and every row comes once, with its shifted position.  The rows may be given
in any sequence. -/
theorem planMove_exact (items : List Item) (origin target : Int) :
    ((∃ plan, planMove items origin target = .ok plan) ↔
        Arranged items ∧ origin ∈ positions items.length ∧ target ∈ positions items.length) ∧
      (∀ fault, planMove items origin target = .error fault →
        ∃ what, fault.toError = .internal what) ∧
      (∀ plan, planMove items origin target = .ok plan →
        plan.length = items.length ∧ plan.map Prod.snd = positions items.length ∧
          plan.Perm (items.map fun i => (i.id, shifted origin target i.order))) ∧
      ∀ items', items.Perm items' →
        planMove items' origin target = planMove items origin target := by
  refine ⟨⟨?_, fun h => ⟨_, planMove_eq_ok_iff.2 ⟨h, rfl⟩⟩⟩, fun _ => isInternal_of_planMove, ?_,
    fun _ => planMove_perm⟩
  · rintro ⟨plan, hplan⟩
    exact (planMove_eq_ok_iff.1 hplan).1
  · intro plan hplan
    obtain ⟨⟨h, ho, ht⟩, rfl⟩ := planMove_eq_ok_iff.1 hplan
    exact ⟨length_planOf h ho ht, map_snd_planOf h ho ht, planOf_perm h ho ht⟩

end Turnstile
