/-
# The store under interleaved tasks

Tasks that change rows claim their owner's lock, wait until they hold it, and then do all
their work at once; a task that opens a transaction keeps the lock until the transaction is
closed.  A waiting task may give up, in which case it changes nothing.

The state of all this is a `Machine`, and what can happen next to it is a `Step`.  Any
sequence of steps is a possible interleaving; a step that is not possible in a state leaves
it as it is.
-/
import Turnstile.Store.OwnerLocks
import Turnstile.Store.Rows

namespace Turnstile

/-- Work that needs the lock of an owner. -/
inductive Task where
  /-- Adds a row under a key drawn by the caller. -/
  | insert (owner name : String) (order : Int) (key : Uuid)
  /-- Removes the row with an id. -/
  | delete (owner : String) (id : Int)
  /-- Opens a transaction. -/
  | begin (owner : String)
  /-- Moves a row in a transaction of its own. -/
  | move (m : Move)
deriving DecidableEq, Repr

/-- What a task that got through replies. -/
inductive Reply where
  | item (i : Item)
  | flag (b : Bool)
  | items (is : List Item)
  | opened (tx : Transaction)
deriving DecidableEq, Repr

namespace Task

/-- The owner whose lock a task needs. -/
def owner : Task → String
  | insert owner _ _ _ => owner
  | delete owner _ => owner
  | begin owner => owner
  | move m => m.owner

/-- The error of a task that is refused before it claims anything. -/
def refusal? : Task → Option Error
  | insert _ _ order _ => if Rows.acceptsOrder order then none else some Rows.orderError
  | _ => none

/-- What is logged when a task begins. -/
def startEvents : Task → List Event
  | move m => [m.startEvent]
  | _ => []

/-- The work of a task on the rows, given whether it obtained the lock. -/
def work (granted : Bool) : Task → Attempt Rows Reply
  | insert owner name order key =>
    if granted then
      Reply.item <$> ExceptT.mk (Action.update fun r => r.insert owner name order key)
    else throw (.storage (.lockTimeout owner))
  | delete owner id =>
    if granted then Reply.flag <$> ExceptT.lift (Action.update fun r => r.delete owner id)
    else throw (.storage (.lockTimeout owner))
  | begin owner => Reply.opened <$> Rows.begin granted owner
  | move m => do
    let tx ← (Rows.begin granted m.owner).caught
    Reply.items <$> m.proceed (Rows.interface granted) tx

end Task

/-- The rows, the locks, the tasks that wait and the transactions that are open. -/
structure Machine where
  rows : Rows
  locks : OwnerLocks := {}
  /-- The tasks that claim a lock and have not ended, by ticket. -/
  waiting : Register Nat Task := {}
  /-- The open transactions by the ticket that holds their lock. -/
  opened : Register Nat Transaction := {}
  /-- The ticket of the next task. -/
  nextTicket : Nat := 0
deriving DecidableEq, Repr

/-- What can happen next. -/
inductive Step where
  /-- A task begins and claims its lock. -/
  | arrive (task : Task)
  /-- A waiting task that holds its lock does its work. -/
  | enter (ticket : Nat)
  /-- A waiting task that does not hold its lock gives up. -/
  | giveUp (ticket : Nat)
  /-- The committed rows of an owner are listed. -/
  | list (owner : String)
  /-- The rows of an open transaction are listed. -/
  | txList (ticket : Nat) (owner : String)
  /-- A row is moved in an open transaction. -/
  | txPlace (ticket : Nat) (id : Int) (owner : String) (order : Int)
  /-- An open transaction is committed. -/
  | commit (ticket : Nat)
  /-- An open transaction is rolled back. -/
  | rollback (ticket : Nat)
  /-- An open transaction is dropped. -/
  | drop (ticket : Nat)
deriving DecidableEq, Repr

/-- What a step answers. -/
inductive Response where
  /-- The step is not possible. -/
  | impossible
  /-- A task has begun under a ticket. -/
  | arrived (ticket : Nat)
  /-- A task was refused at once. -/
  | refused (e : Error)
  /-- A task has ended. -/
  | ended (r : Except Error Reply)
  /-- Rows were listed. -/
  | listed (r : Except Error (List Item))
  /-- Something was done in a transaction, or a transaction was closed. -/
  | settled (r : Except Error Unit)

namespace Machine

/-- A store without rows. -/
def ofSettings (s : StoreSettings) : Machine := { rows := { capacity := s.maxItems } }

/-- Whether a ticket waits for a lock that it holds by now. -/
def canEnter (m : Machine) (ticket : Nat) : Bool :=
  (m.waiting.get? ticket).isSome && m.locks.holds ticket

/-- Whether a ticket waits for a lock that another one holds. -/
def canGiveUp (m : Machine) (ticket : Nat) : Bool :=
  (m.waiting.get? ticket).isSome && !m.locks.holds ticket

/-- Runs an action on the rows. -/
def onRows {α : Type} (a : Action Rows α) : Action Machine α := fun m =>
  let o := a.run m.rows
  ⟨o.result, { m with rows := o.state }, o.events⟩

/-- A task begins: it is refused at once, or claims its lock under a new ticket. -/
def arrive (task : Task) : Action Machine Response := fun m =>
  match task.refusal? with
  | some e => ⟨.refused e, m, []⟩
  | none =>
    let ticket := m.nextTicket
    ⟨.arrived ticket,
      { m with
        locks := m.locks.claim ticket task.owner
        waiting := m.waiting.insert ticket task
        nextTicket := ticket + 1 },
      task.startEvents⟩

/-- A ticket stops waiting and gives its claim back. -/
def leave (ticket : Nat) (m : Machine) : Machine :=
  { m with waiting := m.waiting.erase ticket, locks := m.locks.release ticket }

/-- A ticket stops waiting and keeps its claim for a transaction. -/
def keep (ticket : Nat) (tx : Transaction) (m : Machine) : Machine :=
  { m with waiting := m.waiting.erase ticket, opened := m.opened.insert ticket tx }

/-- What becomes of a ticket after its task has ended with a result. -/
def settle (ticket : Nat) (r : Except Error Reply) (m : Machine) : Machine :=
  match r with
  | .ok (.opened tx) => m.keep ticket tx
  | _ => m.leave ticket

/-- The task of a ticket does its work, having obtained the lock or not. -/
def finish (ticket : Nat) (task : Task) (granted : Bool) : Action Machine Response := do
  let r ← onRows (ExceptT.run (task.work granted))
  Action.update fun m => (.ended r, m.settle ticket r)

/-- A waiting task does its work if it holds its lock. -/
def enter (ticket : Nat) : Action Machine Response := fun m =>
  match m.waiting.get? ticket with
  | some task =>
    if m.locks.holds ticket then (finish ticket task true).run m else ⟨.impossible, m, []⟩
  | none => ⟨.impossible, m, []⟩

/-- A waiting task gives up if another one holds its lock. -/
def giveUp (ticket : Nat) : Action Machine Response := fun m =>
  match m.waiting.get? ticket with
  | some task =>
    if m.locks.holds ticket then ⟨.impossible, m, []⟩ else (finish ticket task false).run m
  | none => ⟨.impossible, m, []⟩

/-- Closes a transaction: its lock is released. -/
def close (ticket : Nat) (m : Machine) : Machine :=
  { m with opened := m.opened.erase ticket, locks := m.locks.release ticket }

/-- Does something with an open transaction. -/
def withOpen (ticket : Nat) (f : Transaction → Action Machine Response) : Action Machine Response :=
  fun m => match m.opened.get? ticket with
    | none => ⟨.impossible, m, []⟩
    | some tx => (f tx).run m

/-- Lists the rows of an open transaction. -/
def txList (ticket : Nat) (owner : String) : Action Machine Response :=
  withOpen ticket fun tx => pure (.listed (tx.list owner))

/-- Moves a row in an open transaction. -/
def txPlace (ticket : Nat) (id : Int) (owner : String) (order : Int) : Action Machine Response :=
  withOpen ticket fun tx => Action.update fun m =>
    let (r, tx') := tx.place id owner order
    (.settled r, { m with opened := m.opened.insert ticket tx' })

/-- Closes an open transaction after an attempt on the rows. -/
def closeAfter (ticket : Nat) (attempt : Transaction → Attempt Rows Unit) :
    Action Machine Response :=
  withOpen ticket fun tx => do
    let r ← onRows (ExceptT.run (attempt tx))
    Action.update fun m => (.settled r, m.close ticket)

/-- Performs a step. -/
def step : Step → Action Machine Response
  | .arrive task => arrive task
  | .enter ticket => enter ticket
  | .giveUp ticket => giveUp ticket
  | .list owner => Action.read fun m => .listed (.ok (m.rows.list owner))
  | .txList ticket owner => txList ticket owner
  | .txPlace ticket id owner order => txPlace ticket id owner order
  | .commit ticket => closeAfter ticket Rows.commit
  | .rollback ticket => closeAfter ticket Rows.rollback
  | .drop ticket => closeAfter ticket fun _ => pure ()

/-- Performs steps in sequence. -/
def steps : List Step → Action Machine (List Response)
  | [] => pure []
  | s :: ss => do
    let r ← step s
    let rs ← steps ss
    return r :: rs

end Machine

end Turnstile
