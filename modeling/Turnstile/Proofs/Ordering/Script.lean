/-
# Moves on a store that fails on demand

The store that fails on demand has transactions whatever its script says, so all that holds
of moves on such stores holds of it.  The journal of a move on it is what the script says:
the n-th listing and the n-th placement fail exactly if the script names them, and so do
the calls that open and close the transaction, if they are made at all.
-/
import Turnstile.Ordering.FaultyStore
import Turnstile.Proofs.Ordering.Journal

namespace Turnstile

/-- The rows of one owner. -/
def Item.ownedBy (owner : String) (items : List Item) : List Item :=
  items.filter fun i => i.owner == owner

namespace FaultyStore

variable {α : Type}

/-! ## Its transactions -/

theorem answer_eq_ok {fails : Bool} {what : String} {a b : α} (h : answer fails what a = .ok b) :
    ¬fails = true ∧ a = b := by
  rw [answer] at h
  split at h
  · cases h
  · next hfails => exact ⟨hfails, Except.ok.inj h⟩

theorem answer_eq_error {fails : Bool} {what : String} {a : α} {e : Error}
    (h : answer fails what a = .error e) : fails = true := by
  rw [answer] at h
  split at h
  · next hfails => exact hfails
  · cases h

/-- Moving the row of an owner with an id is seen in the rows of that owner only. -/
theorem ownedBy_map_move (id order : Int) (owner owner' : String) (rows : List Item) :
    Item.ownedBy owner' (rows.map fun i =>
        if i.owner = owner ∧ i.id = id then { i with order := order } else i) =
      Function.update (fun o => Item.ownedBy o rows) owner
        (Item.reposition id order (Item.ownedBy owner rows)) owner' := by
  have hkept : (fun i : Item => i.owner == owner') ∘ (fun i : Item =>
      if i.owner = owner ∧ i.id = id then { i with order := order } else i) =
        fun i => i.owner == owner' := by
    funext i
    dsimp only [Function.comp]
    split <;> rfl
  rw [Item.ownedBy, List.filter_map, hkept, Function.update_apply]
  split
  · next heq =>
    subst heq
    refine List.map_congr_left fun i hi => ?_
    have howner : i.owner = owner' := by simpa using (List.mem_filter.1 hi).2
    simp [howner]
  · next hne =>
    rw [Item.ownedBy]
    refine (List.map_congr_left fun i hi => ?_).trans (List.map_id _)
    have howner : i.owner = owner' := by simpa using (List.mem_filter.1 hi).2
    have hother : ¬(i.owner = owner ∧ i.id = id) := fun h => hne (howner.symm.trans h.1)
    exact if_neg hother

/-- The store that fails on demand has transactions, whatever its script. -/
theorem isTransactional :
    interface.IsTransactional (fun s owner => Item.ownedBy owner s.rows)
      (fun x owner => Item.ownedBy owner x.2) where
  begin_outside _ _ := rfl
  begin_inside owner s tx h := by
    obtain ⟨-, rfl⟩ := answer_eq_ok h
    rfl
  rowsOf_outside _ _ := rfl
  rowsOf_inside owner x items h := by
    obtain ⟨-, rfl⟩ := answer_eq_ok h
    exact ⟨rfl, .refl _⟩
  place_outside _ _ _ _ := rfl
  place_inside id owner order x h := by
    obtain ⟨hplaced, -⟩ := answer_eq_ok h
    funext owner'
    rw [← ownedBy_map_move]
    change Item.ownedBy owner' (if x.1.script.place (x.1.placements + 1) then _ else _) = _
    rw [if_neg hplaced]
  commit_ok s tx h := by
    obtain ⟨hcommitted, -⟩ := answer_eq_ok h
    funext owner
    change Item.ownedBy owner (if s.script.commit then _ else _) = _
    rw [if_neg hcommitted]
  commit_error s tx e h := by
    funext owner
    change Item.ownedBy owner (if s.script.commit then _ else _) = _
    rw [if_pos (answer_eq_error h)]
  rollback_outside _ _ := rfl

/-! ## Its script and the journal -/

/-- The failure of a call that fails if a condition holds. -/
def scripted (fails : Bool) (what : String) : Option Error :=
  if fails then some (injected what) else none

theorem failure?_answer (fails : Bool) (what : String) (a : α) :
    failure? (answer fails what a) = scripted fails what := by
  rw [answer, scripted]
  split <;> rfl

/-- A journal says of the calls made so far what a script says of them. -/
structure Follows (script : Script) (s : FaultyStore) (j : Journal) : Prop where
  script_eq : s.script = script
  begin : j.begin = none ∨ j.begin = scripted script.begin "begin"
  listings : j.listings.map failure? =
    (List.range s.listings).map fun n => scripted (script.list (n + 1)) s!"list {n + 1}"
  placements : j.placements =
    (List.range s.placements).map fun n => scripted (script.place (n + 1)) s!"update {n + 1}"
  commit : j.commit = none ∨ j.commit = scripted script.commit "commit"
  rollback : j.rollback = none ∨ j.rollback = scripted script.rollback "rollback"

/-- Each of the calls keeps the journal to the script. -/
theorem observed_follows (script : Script) :
    interface.observed.Mirrors (fun x' x => x' = x ∧ Follows script x.1 x.2)
      interface.observed where
  begin owner := by
    refine Attempt.keeps_iff.2 fun ⟨s, j⟩ h => ?_
    obtain ⟨rfl, -, hlistings, hplacements, hcommit, hrollback⟩ := h
    exact ⟨rfl, .inr (failure?_answer _ _ _), hlistings, hplacements, hcommit, hrollback⟩
  rowsOf owner := by
    refine Attempt.keeps_beside fun ⟨⟨s, j⟩, tx⟩ h => ?_
    obtain ⟨rfl, hbegin, hlistings, hplacements, hcommit, hrollback⟩ := h
    refine ⟨rfl, hbegin, ?_, hplacements, hcommit, hrollback⟩
    change (j.listings ++ [answer (s.script.list (s.listings + 1)) _ _]).map failure? =
      (List.range (s.listings + 1)).map _
    rw [List.map_append, hlistings, List.range_succ, List.map_append, List.map_singleton,
      List.map_singleton, failure?_answer]
  place row owner order := by
    refine Attempt.keeps_beside fun ⟨⟨s, j⟩, tx⟩ h => ?_
    obtain ⟨rfl, hbegin, hlistings, hplacements, hcommit, hrollback⟩ := h
    refine ⟨rfl, hbegin, hlistings, ?_, hcommit, hrollback⟩
    change j.placements ++ [failure? (answer (s.script.place (s.placements + 1)) _ _)] =
      (List.range (s.placements + 1)).map _
    rw [hplacements, List.range_succ, List.map_append, List.map_singleton, failure?_answer]
  commit tx := by
    refine Attempt.keeps_iff.2 fun ⟨s, j⟩ h => ?_
    obtain ⟨rfl, hbegin, hlistings, hplacements, -, hrollback⟩ := h
    exact ⟨rfl, hbegin, hlistings, hplacements, .inr (failure?_answer _ _ _), hrollback⟩
  rollback tx := by
    refine Attempt.keeps_iff.2 fun ⟨s, j⟩ h => ?_
    obtain ⟨rfl, hbegin, hlistings, hplacements, hcommit, -⟩ := h
    exact ⟨rfl, hbegin, hlistings, hplacements, hcommit, .inr (failure?_answer _ _ _)⟩

/-- The journal of a move on a new store that fails on demand is what its script says. -/
theorem journal_follows (m : Move) (rows : List Item) (script : Script) :
    let s : FaultyStore := { rows := rows, script := script }
    Follows script ((m.perform interface).runOn s).state (m.journal interface s) := by
  intro s
  have hnew : Follows script s {} := ⟨rfl, .inl rfl, rfl, rfl, .inl rfl, .inl rfl⟩
  obtain ⟨-, ⟨-, hfollows⟩, -⟩ :=
    Move.perform_mirrors (observed_follows script) m (s, {}) _ ⟨rfl, hnew⟩
  obtain ⟨-, hstate, -⟩ := Move.perform_mirrors interface.observed_mirrors m (s, {}) s rfl
  rw [← hstate]
  exact hfollows

end FaultyStore
end Turnstile
