/-
# The tightest window

The most restrictive of a list of states is found by going through the list and changing
over to a state that binds more tightly than the best one so far.  Whether a state binds
more tightly looks at the resets only if both states are exhausted, so this is not a
comparison of one number.  It is an order all the same: a state has a rank, made of what
remains in it and, if nothing does, of its reset, and to bind more tightly is to have the
lower rank.  So the walk ends with the first state of the lowest rank, wherever the exhausted
states stand in the list.
-/
import Mathlib.Data.List.MinMax
import Mathlib.Data.Prod.Lex
import Mathlib.Order.Bounds.Basic
import Turnstile.Admission.Verdict

namespace Turnstile
namespace WindowState

/-- A state is as tight as another one if no more remains in it and if, when both are
exhausted, it resets no earlier. -/
structure AsTightAs (s t : WindowState) : Prop where
  remaining_le : s.remaining ≤ t.remaining
  resetAt_le : s.remaining = 0 → t.remaining = 0 → t.resetAt ≤ s.resetAt

/-- Where a state stands among others: by what remains in it, and among exhausted ones by its
reset, the latest first. -/
def rank (s : WindowState) : ℕ ×ₗ ℕᵒᵈ :=
  toLex (s.remaining, OrderDual.toDual (if s.remaining = 0 then s.resetAt else 0))

theorem asTightAs_iff {s t : WindowState} : s.AsTightAs t ↔ s.rank ≤ t.rank := by
  rw [rank, rank, Prod.Lex.toLex_le_toLex]
  dsimp only
  rw [OrderDual.toDual_le_toDual]
  constructor
  · intro h
    have hle := h.remaining_le
    have hreset := h.resetAt_le
    rcases Nat.lt_or_ge s.remaining t.remaining with hlt | hge
    · exact .inl hlt
    · refine .inr ⟨Nat.le_antisymm hle hge, ?_⟩
      split <;> split <;> omega
  · intro h
    constructor
    · omega
    · intro hs ht
      rw [if_pos hs, if_pos ht] at h
      omega

theorem binds_iff {w best : WindowState} : w.binds best = true ↔ w.rank < best.rank := by
  rw [rank, rank, Prod.Lex.toLex_lt_toLex]
  dsimp only
  rw [OrderDual.toDual_lt_toDual]
  simp only [binds, isExhausted, Bool.or_eq_true, Bool.and_eq_true, decide_eq_true_eq,
    beq_iff_eq]
  constructor
  · rintro (hlt | ⟨⟨hw, hbest⟩, hreset⟩)
    · exact .inl hlt
    · refine .inr ⟨hw.trans hbest.symm, ?_⟩
      rwa [if_pos hw, if_pos hbest]
  · rintro (hlt | ⟨heq, hreset⟩)
    · exact .inl hlt
    · -- states in which equally much remains differ in rank only if they are exhausted
      by_cases hw : w.remaining = 0
      · have hbest : best.remaining = 0 := heq ▸ hw
        rw [if_pos hw, if_pos hbest] at hreset
        exact .inr ⟨⟨hw, hbest⟩, hreset⟩
      · rw [if_neg hw] at hreset
        omega

/-- The walk finds the first state of the lowest rank. -/
theorem mostRestrictive_eq_argmin (ss : List WindowState) :
    mostRestrictive ss = ss.argmin rank := by
  cases ss with
  | nil => rfl
  | cons s ss =>
    rw [mostRestrictive, List.argmin, List.foldl_cons]
    change some _ = ss.foldl _ (some s)
    induction ss generalizing s with
    | nil => rfl
    | cons t ss ih =>
      rw [List.foldl_cons, List.foldl_cons, ih, tighter]
      simp only [List.argAux, binds_iff]
      split <;> rfl

/-- The most restrictive of some states is one of them, and as tight as all of them. -/
theorem mostRestrictive_eq_some {ss : List WindowState} {s : WindowState}
    (h : mostRestrictive ss = some s) : s ∈ ss ∧ ∀ t ∈ ss, s.AsTightAs t := by
  rw [mostRestrictive_eq_argmin] at h
  exact ⟨List.argmin_mem h, fun t ht => asTightAs_iff.2 (List.le_of_mem_argmin ht h)⟩

theorem mostRestrictive_tightest {ss : List WindowState} (h : ss ≠ []) :
    ∃ s ∈ ss, mostRestrictive ss = some s ∧ ∀ t ∈ ss, s.AsTightAs t := by
  cases hfound : mostRestrictive ss with
  | none =>
    rw [mostRestrictive_eq_argmin, List.argmin_eq_none] at hfound
    exact absurd hfound h
  | some s =>
    obtain ⟨hmem, htight⟩ := mostRestrictive_eq_some hfound
    exact ⟨s, hmem, rfl, htight⟩

/-- The state at a place of a list is as tight as every state of the list. -/
def IsTightestAt (ss : List WindowState) (i : Nat) : Prop :=
  ∃ s, ss[i]? = some s ∧ ∀ t ∈ ss, s.AsTightAs t

/-- No place before that of the most restrictive state has a state that is as tight as all. -/
theorem isLeast_idxOf {ss : List WindowState} {s : WindowState}
    (h : mostRestrictive ss = some s) : IsLeast {i | IsTightestAt ss i} (ss.idxOf s) := by
  obtain ⟨hmem, htight⟩ := mostRestrictive_eq_some h
  constructor
  · exact ⟨s, List.getElem?_idxOf hmem, htight⟩
  · rintro i ⟨t, hi, ht⟩
    obtain ⟨hlen, rfl⟩ := List.getElem?_eq_some_iff.1 hi
    have hfirst : ss.idxOf s ≤ ss.idxOf ss[i] := by
      rw [mostRestrictive_eq_argmin] at h
      exact List.index_of_argmin h (List.getElem_mem hlen) (asTightAs_iff.1 (ht s hmem))
    have hplace : ss.idxOf ss[i] ≤ i := by
      by_contra hlt
      have hne := List.not_of_lt_findIdx (Nat.lt_of_not_le hlt)
      simp at hne
    exact hfirst.trans hplace

/-- Rearranging a list does not change the rank of its most restrictive state. -/
theorem map_rank_mostRestrictive {ss ss' : List WindowState} (h : ss'.Perm ss) :
    (mostRestrictive ss').map rank = (mostRestrictive ss).map rank := by
  cases hs : mostRestrictive ss with
  | none =>
    rw [mostRestrictive_eq_argmin, List.argmin_eq_none] at hs
    subst hs
    rw [h.eq_nil]
    rfl
  | some s =>
    obtain ⟨hmem, htight⟩ := mostRestrictive_eq_some hs
    obtain ⟨s', hmem', hs', htight'⟩ :=
      mostRestrictive_tightest (List.ne_nil_of_mem (h.mem_iff.2 hmem))
    have hle : s'.rank ≤ s.rank := asTightAs_iff.1 (htight' s (h.mem_iff.2 hmem))
    have hge : s.rank ≤ s'.rank := asTightAs_iff.1 (htight s' (h.mem_iff.1 hmem'))
    rw [hs', Option.map_some, Option.map_some, le_antisymm hle hge]

end WindowState

/-- **The most restrictive window is the first of the tightest.**  Without windows there is
none.  Otherwise it is the state at the least place such that no window has less remaining
and, if the state is exhausted, no exhausted window resets later; so its rank is the lowest,
and this lowest rank is the same in whatever sequence the windows are declared. -/
theorem Verdict.mostRestrictive_leftmost (v : Verdict) :
    (v.windows = [] → v.mostRestrictive = none) ∧
    (v.windows ≠ [] → ∃ i s, v.mostRestrictive = some s ∧ v.windows[i]? = some s ∧
      IsLeast {j | WindowState.IsTightestAt v.windows j} i) ∧
    (∀ s ∈ v.mostRestrictive, ∀ t ∈ v.windows, s.rank ≤ t.rank) ∧
    ∀ u : Verdict, u.windows.Perm v.windows →
      u.mostRestrictive.map WindowState.rank = v.mostRestrictive.map WindowState.rank := by
  refine ⟨fun hnil => ?_, fun hne => ?_, fun s hs t ht => ?_, fun u hperm => ?_⟩
  · rw [mostRestrictive, hnil]
    rfl
  · obtain ⟨s, hmem, hfound, -⟩ := WindowState.mostRestrictive_tightest hne
    exact ⟨_, s, hfound, List.getElem?_idxOf hmem, WindowState.isLeast_idxOf hfound⟩
  · exact WindowState.asTightAs_iff.1 ((WindowState.mostRestrictive_eq_some hs).2 t ht)
  · exact WindowState.map_rank_mostRestrictive hperm

/-- Two exhausted windows that reset together, with one that resets earlier and one that is
not exhausted before them: the third of the five is reported, and not the last, which has
the same rank. -/
theorem Verdict.mostRestrictive_leftmost_of_five :
    let v : Verdict := ⟨false, [⟨9, 4, 50, 60⟩, ⟨2, 0, 7, 1⟩, ⟨5, 0, 12, 10⟩, ⟨8, 3, 99, 90⟩,
      ⟨6, 0, 12, 11⟩]⟩
    v.windows ≠ [] ∧ v.mostRestrictive = some ⟨5, 0, 12, 10⟩ ∧
      IsLeast {j | WindowState.IsTightestAt v.windows j} 2 := by
  intro v
  have hne : v.windows ≠ [] := by simp [v]
  have hfound : v.mostRestrictive = some ⟨5, 0, 12, 10⟩ := by decide
  obtain ⟨i, s, hs, hi, hleast⟩ := (mostRestrictive_leftmost v).2.1 hne
  obtain rfl : s = ⟨5, 0, 12, 10⟩ := Option.some.inj (hs.symm.trans hfound)
  -- the state stands at one place only
  have honly : ∀ i < 5, v.windows[i]? = some ⟨5, 0, 12, 10⟩ → i = 2 := by decide
  obtain rfl : i = 2 := honly i (List.getElem?_eq_some_iff.1 hi).1 hi
  exact ⟨hne, hfound, hleast⟩

end Turnstile
