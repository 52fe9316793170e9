/-
# A move as a dialogue with its store

What a move asks of its store depends on the answers that it has had so far, and on nothing
else.  A dialogue says, for every answer, what is asked next, until there is a result.
`Move.dialogue` is that of a move, and on any store a move does within its transaction what
its dialogue does there.

So a move can be told from what is asked of a store and answered, whoever asks and whatever
happens between one call and the next.
-/
import Turnstile.Proofs.Ordering.Failure

namespace Turnstile

/-- What is asked of a store within a transaction, given the answers. -/
inductive Dialogue where
  /-- Nothing more is asked. -/
  | ended (r : Except Error (List Item))
  /-- The rows of an owner are listed. -/
  | list (owner : String) (next : Except Error (List Item) → Dialogue)
  /-- A row is moved to a position. -/
  | place (id : Int) (owner : String) (order : Int) (next : Except Error Unit → Dialogue)

namespace Dialogue

variable {σ τ : Type}

/-- Goes on with a dialogue if something went well. -/
def ifOk {α : Type} (next : α → Dialogue) : Except Error α → Dialogue
  | .ok a => next a
  | .error e => ended (.error e)

/-- Conducts a dialogue with a store. -/
def conduct (store : OrderStore σ τ) : Dialogue → Attempt (σ × τ) (List Item)
  | ended (.ok items) => pure items
  | ended (.error e) => throw e
  | list owner next => do (next (← (store.rowsOf owner).caught)).conduct store
  | place id owner order next => do (next (← (store.place id owner order).caught)).conduct store

/-- An attempt goes on only if it has not failed. -/
theorem bind_eq_caught {α β : Type} (x : Attempt σ α) (f : α → Attempt σ β) :
    x >>= f = x.caught >>= fun
      | .ok a => f a
      | .error e => throw e := by
  refine ExceptT.ext ?_
  rw [ExceptT.run_bind, ExceptT.run_bind, Attempt.caught, ExceptT.run_lift, bind_map_left]
  refine bind_congr fun r => ?_
  cases r <;> rfl

theorem conduct_list_ifOk (store : OrderStore σ τ) (owner : String) (next : List Item → Dialogue) :
    (list owner (ifOk next)).conduct store =
      store.rowsOf owner >>= fun items => (next items).conduct store := by
  rw [bind_eq_caught, conduct]
  refine bind_congr fun r => ?_
  cases r <;> rfl

theorem conduct_place_ifOk (store : OrderStore σ τ) (id : Int) (owner : String) (order : Int)
    (next : Dialogue) :
    (place id owner order (ifOk fun _ => next)).conduct store =
      store.place id owner order >>= fun _ => next.conduct store := by
  rw [bind_eq_caught, conduct]
  refine bind_congr fun r => ?_
  cases r <;> rfl

end Dialogue

namespace Move

open Dialogue

variable {σ τ : Type}

/-- The steps of a move one after the other, and then something else. -/
def writing (m : Move) (next : Dialogue) : List (Except MoveFault (Int × Int)) → Dialogue
  | [] => next
  | .error f :: _ => ended (.error f.toError)
  | .ok p :: steps => place p.1 m.owner p.2 (ifOk fun _ => m.writing next steps)

/-- What a move asks of its store once the rows are listed and nothing is wrong with them. -/
def rearranging (m : Move) (items : List Item) : Dialogue :=
  if m.origin = m.target then ended (.ok items)
  else match planMove items m.origin m.target with
    | .error f => ended (.error f.toError)
    | .ok plan =>
      m.writing (list m.owner (ifOk fun items => ended (.ok items)))
        (items.map parkStep ++ plan.map Except.ok)

/-- What a move asks of its store within its transaction. -/
def dialogue (m : Move) : Dialogue :=
  list m.owner <| ifOk fun items => match m.fault? items with
    | some f => ended (.error f.toError)
    | none => m.rearranging items

theorem writing_conduct (store : OrderStore σ τ) (m : Move) (next : Dialogue)
    (steps : List (Except MoveFault (Int × Int))) :
    (m.writing next steps).conduct store =
      forM steps (write store m) >>= fun _ => next.conduct store := by
  induction steps with
  | nil => rw [writing, List.forM_nil, pure_bind]
  | cons step steps ih =>
    rw [List.forM_cons, bind_assoc, ← ih, write]
    cases step with
    | error f => rfl
    | ok p => rw [writing, conduct_place_ifOk, orFail, pure_bind]

theorem rearranging_conduct (store : OrderStore σ τ) (m : Move) (items : List Item) :
    (m.rearranging items).conduct store =
      (if m.origin = m.target then pure items
      else do
        rearrange store m items (← orFail (planMove items m.origin m.target))
        store.rowsOf m.owner) := by
  rw [rearranging]
  split
  · rfl
  · cases planMove items m.origin m.target with
    | error f => rfl
    | ok plan =>
      rw [writing_conduct, ← rearrange_eq_forM, conduct_list_ifOk, orFail, pure_bind]
      exact bind_congr fun _ => bind_pure _

/-- What a move does within its transaction is its dialogue. -/
theorem within_eq_dialogue (store : OrderStore σ τ) (m : Move) :
    within store m = m.dialogue.conduct store := by
  rw [within, dialogue, conduct_list_ifOk]
  refine bind_congr fun items => ?_
  cases m.fault? items with
  | some f => rfl
  | none => exact (m.rearranging_conduct store items).symm

end Move

end Turnstile
