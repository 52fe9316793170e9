/-
# What a move does with its transaction

On the rows of a store a dialogue is a matter of the transaction alone: the committed rows
are neither asked nor changed before the end.  So all that a move does is to hold its
dialogue with a copy of its owner's rows and to publish the copy if that went well.

The work of a task concerns the rows of its own owner only.
-/
import Turnstile.Proofs.Ordering.Dialogue
import Turnstile.Proofs.Store.Steps

namespace Turnstile

namespace Dialogue

/-- Holds a dialogue with a transaction: its result, and the transaction afterwards. -/
def run : Dialogue → Transaction → Except Error (List Item) × Transaction
  | ended r, tx => (r, tx)
  | list owner next, tx => (next (tx.list owner)).run tx
  | place id owner order next, tx =>
    (next (tx.place id owner order).1).run (tx.place id owner order).2

/-- A dialogue with the rows of a store leaves the committed rows alone. -/
theorem conduct_interface_runOn (granted : Bool) (d : Dialogue) (r : Rows) (tx : Transaction) :
    (d.conduct (Rows.interface granted)).runOn (r, tx) =
      ⟨(d.run tx).1, (r, (d.run tx).2), []⟩ := by
  induction d generalizing tx with
  | ended result => cases result <;> rfl
  | list owner next ih =>
    have hcaught := Attempt.runOn_caught ((Rows.interface granted).rowsOf owner) (r, tx)
    rw [conduct, Attempt.runOn_bind_of_ok (congrArg Outcome.result hcaught), hcaught]
    exact congrArg (Outcome.after []) (ih (tx.list owner) tx)
  | place id owner order next ih =>
    have hcaught := Attempt.runOn_caught ((Rows.interface granted).place id owner order) (r, tx)
    rw [conduct, Attempt.runOn_bind_of_ok (congrArg Outcome.result hcaught), hcaught]
    exact congrArg (Outcome.after []) (ih _ (tx.place id owner order).2)

theorem run_owner (d : Dialogue) (tx : Transaction) : (d.run tx).2.owner = tx.owner := by
  induction d generalizing tx with
  | ended result => rfl
  | list owner next ih => exact ih _ tx
  | place id owner order next ih => exact (ih _ _).trans (tx.place_owner id owner order)

end Dialogue

/-- The rows after a transaction has been closed with a result. -/
def Rows.closed (r : Rows) (tx : Transaction) : Except Error (List Item) → Rows
  | .ok _ => r.publish tx
  | .error _ => r

/-- A move holds its dialogue with a copy of the rows, and publishes the copy if this went
well. -/
theorem Move.complete_interface_runOn (granted : Bool) (m : Move) (r : Rows) (tx : Transaction) :
    let d := m.dialogue.run tx
    ((m.complete (Rows.interface granted) tx).runOn r).result = d.1 ∧
      ((m.complete (Rows.interface granted) tx).runOn r).state = r.closed d.2 d.1 := by
  intro d
  rw [complete_runOn, within_eq_dialogue, Dialogue.conduct_interface_runOn]
  dsimp only [Outcome.result_after, Outcome.state_after]
  rcases hd : d with ⟨result, tx'⟩
  have hd : m.dialogue.run tx = (result, tx') := hd
  rw [hd]
  cases result with
  | ok items => exact conclude_runOn (Rows.interface granted) m tx' items r
  | error e => exact abandon_runOn (Rows.interface granted) m tx' e r

namespace Task

theorem work_move_true_runOn (m : Move) (r : Rows) :
    let d := m.dialogue.run (r.snapshot m.owner)
    (((Task.move m).work true).runOn r).result = d.1.map Reply.items ∧
      (((Task.move m).work true).runOn r).state = r.closed d.2 d.1 := by
  obtain ⟨hresult, hstate⟩ := m.complete_interface_runOn true r (r.snapshot m.owner)
  intro d
  rw [work_move_runOn]
  exact ⟨congrArg (Except.map Reply.items) hresult, hstate⟩

/-- A task leaves the rows of all owners but its own alone. -/
theorem work_true_of (task : Task) (r : Rows) {owner : String} (h : owner ≠ task.owner) :
    ((task.work true).runOn r).state.of owner = r.of owner := by
  cases task with
  | insert owner' name order key =>
    rw [work_insert_runOn]
    obtain ⟨e, hinsert⟩ | ⟨-, -, r', hinsert, hof, -, -⟩ := r.insert_cases owner' name order key
    · rw [hinsert]
    · rw [hinsert]
      exact (congrFun hof owner).trans (Function.update_of_ne h _ _)
  | delete owner' id =>
    rw [work_delete_runOn, Rows.of_delete]
    exact Function.update_of_ne h _ _
  | begin owner' => rfl
  | move m =>
    rw [(work_move_true_runOn m r).2]
    cases hresult : (m.dialogue.run (r.snapshot m.owner)).1 with
    | error e => rfl
    | ok items =>
      have howner : (m.dialogue.run (r.snapshot m.owner)).2.owner = m.owner :=
        m.dialogue.run_owner (r.snapshot m.owner)
      rw [Rows.closed, Rows.of_publish, howner]
      exact Function.update_of_ne h _ _

end Task

namespace Machine

variable {m m' : Machine}

/-- The rows change only by the work of a task and by a commit. -/
theorem Taken.rows_cases {st : Step} {response : Response} (h : m.Taken st response m') :
    m'.rows = m.rows ∨
      (∃ ticket task, st = .enter ticket ∧ m.waiting.get? ticket = some task ∧
        m.locks.holds ticket = true ∧ task.opens = false ∧
        m'.rows = ((task.work true).runOn m.rows).state) ∨
      ∃ ticket tx, st = .commit ticket ∧ m.opened.get? ticket = some tx ∧
        m'.rows = m.rows.publish tx := by
  cases h with
  | impossible _ _ | refused _ _ _ | arrived _ _ | begun _ _ _ _ | gaveUp _ _ _ _ | listed _
  | txListed _ _ _ _ | placed _ _ _ _ _ _ | discarded _ _ _ _ _ => exact .inl rfl
  | worked ticket task hwaiting hholds hopens =>
    exact .inr (.inl ⟨ticket, task, rfl, hwaiting, hholds, hopens, rfl⟩)
  | committed ticket tx hopen => exact .inr (.inr ⟨ticket, tx, rfl, hopen, rfl⟩)

end Machine

end Turnstile
