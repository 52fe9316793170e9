/-
# Stores with transactions

What moving a row needs of a store.  A store of states `σ` opens transactions of states `τ`
on an owner.  Within a transaction the rows of the owner can be listed and moved to other
positions; nothing of it shows outside before the commit.  Any of the five calls may fail.
-/
import Turnstile.Event
import Turnstile.Ordering.Item

namespace Turnstile

/-- An action that may fail with an error. -/
abbrev Attempt (σ : Type) : Type → Type := ExceptT Error (Action σ)

/-- Writes one event. -/
def Attempt.emit {σ : Type} (e : Event) : Attempt σ Unit := ExceptT.lift (Action.emit e)

/-- Runs an attempt on a state. -/
def Attempt.runOn {σ α : Type} (a : Attempt σ α) (s : σ) : Outcome σ (Except Error α) :=
  Action.run (ExceptT.run a) s

/-- An attempt whose failure is a result like any other. -/
def Attempt.caught {σ α : Type} (a : Attempt σ α) : Attempt σ (Except Error α) :=
  ExceptT.lift (ExceptT.run a)

/-- A store of ordered rows with transactions. -/
structure OrderStore (σ τ : Type) where
  /-- Opens a transaction on an owner. -/
  begin : (owner : String) → Attempt σ τ
  /-- Lists the rows of an owner. -/
  rowsOf : (owner : String) → Attempt (σ × τ) (List Item)
  /-- Moves one row of an owner to a position. -/
  place : (id : Int) → (owner : String) → (order : Int) → Attempt (σ × τ) Unit
  /-- Makes what was done in a transaction visible. -/
  commit : τ → Attempt σ Unit
  /-- Discards what was done in a transaction. -/
  rollback : τ → Attempt σ Unit

end Turnstile
