/-
# Moving a row of an owner's list

A move happens in one transaction.  The rows are first parked on negative positions, each
on the negative of its id, and then placed where the plan says; in that way no two rows
ever share a position, not even between two single steps.  If anything fails, the
transaction is rolled back and the first failure is reported; what the rollback itself may
report is only logged.
-/
import Turnstile.Ordering.MovePlan
import Turnstile.Ordering.Store

namespace Turnstile

/-- A move that is asked for: the row at `origin` of an owner's list is to go to `target`. -/
structure Move where
  entity : Entity
  owner : String
  origin : Int
  target : Int
deriving DecidableEq, Repr

namespace Move

variable {σ τ : Type}

/-! ## What is logged -/

/-- A move begins. -/
def startEvent (m : Move) : Event where
  level := .info
  source := .reorder
  message := "Reordering"
  fields := [("entity", .shown m.entity.name), ("owner", .text m.owner),
    ("from_order", .number m.origin), ("to_order", .number m.target)]

/-- No transaction could be opened. -/
def refusedEvent (m : Move) (e : Error) : Event where
  level := .error
  source := .reorder
  message := "Could not open transaction"
  fields := [("entity", .shown m.entity.name), ("owner", .text m.owner),
    ("error", .shown e.message)]

/-- A move has been made. -/
def committedEvent (m : Move) (items : List Item) : Event where
  level := .info
  source := .reorder
  message := "Reorder committed"
  fields := [("entity", .shown m.entity.name), ("owner", .text m.owner),
    ("items", .number items.length)]

/-- A move failed and is being rolled back. -/
def rolledBackEvent (m : Move) (e : Error) : Event where
  level := .warn
  source := .reorder
  message := "Reorder rolled back"
  fields := [("entity", .shown m.entity.name), ("owner", .text m.owner),
    ("error", .shown e.message)]

/-- The rollback failed too. -/
def rollbackFailedEvent (m : Move) (e : Error) : Event where
  level := .error
  source := .reorder
  message := "Rollback failed"
  fields := [("owner", .text m.owner), ("error", .shown e.message)]

/-! ## The steps of a move -/

/-- The parking position of a row: the negative of its id, which must be positive. -/
def parking (id : Int) : Except MoveFault Int :=
  if 0 < id then .ok (-id) else .error (.unparkable id)

/-- Fails with the report of a fault, if there is one. -/
def orFail {α : Type} : Except MoveFault α → Attempt σ α
  | .ok a => pure a
  | .error f => throw f.toError

/-- Parks one row. -/
def park (store : OrderStore σ τ) (m : Move) (item : Item) : Attempt (σ × τ) Unit := do
  store.place item.id m.owner (← orFail (parking item.id))

/-- Parks all rows and places them according to a plan. -/
def rearrange (store : OrderStore σ τ) (m : Move) (items : List Item) (plan : List (Int × Int)) :
    Attempt (σ × τ) Unit := do
  items.forM (park store m)
  plan.forM fun p => store.place p.1 m.owner p.2

/-- The fault of a move, as far as the listed rows show it before a plan is made. -/
def fault? (m : Move) (items : List Item) : Option MoveFault :=
  if !items.any fun i => i.order == m.origin then some (.absent m.entity m.origin)
  else if !isPosition items.length m.target then some (.targetOutside items.length)
  else none

/-- Moves the row in an open transaction and lists the rows afterwards. -/
def within (store : OrderStore σ τ) (m : Move) : Attempt (σ × τ) (List Item) := do
  let items ← store.rowsOf m.owner
  match m.fault? items with
  | some f => throw f.toError
  | none =>
    if m.origin = m.target then return items
    else
      rearrange store m items (← orFail (planMove items m.origin m.target))
      store.rowsOf m.owner

/-- Commits a transaction in which a move went well. -/
def conclude (store : OrderStore σ τ) (m : Move) (tx : τ) (items : List Item) :
    Attempt σ (List Item) := do
  store.commit tx
  Attempt.emit (m.committedEvent items)
  return items

/-- Rolls back a transaction in which a move failed. -/
def abandon (store : OrderStore σ τ) (m : Move) (tx : τ) (e : Error) : Attempt σ (List Item) := do
  Attempt.emit (m.rolledBackEvent e)
  match ← (store.rollback tx).caught with
  | .ok _ => throw e
  | .error e' =>
    Attempt.emit (m.rollbackFailedEvent e')
    throw e

/-- Makes a move in an open transaction and closes the transaction. -/
def complete (store : OrderStore σ τ) (m : Move) (tx : τ) : Attempt σ (List Item) := do
  let (result, tx') ← Action.inTransaction (within store m).run tx
  match result with
  | .ok items => conclude store m tx' items
  | .error e => abandon store m tx' e

/-- Goes on once it is known whether a transaction could be opened. -/
def proceed (store : OrderStore σ τ) (m : Move) : Except Error τ → Attempt σ (List Item)
  | .ok tx => complete store m tx
  | .error e => do
    Attempt.emit (m.refusedEvent e)
    throw e

/-- Makes a move: the rows of the owner in their new order, or the first failure. -/
def perform (store : OrderStore σ τ) (m : Move) : Attempt σ (List Item) := do
  Attempt.emit m.startEvent
  proceed store m (← (store.begin m.owner).caught)

end Move

end Turnstile
