/-
# The rows of a store

A store keeps the committed rows of every owner.  No two rows of an owner share a position,
an owner has no more rows than the store allows, and every row that is inserted gets the
next id.  A transaction works on a copy of one owner's rows, which a commit puts in the
place of what is there.
-/
import Turnstile.Ordering.Move
import Turnstile.Register

namespace Turnstile

/-- The limits of a store. -/
structure StoreSettings where
  /-- How many milliseconds an operation waits for an owner's lock. -/
  lockTimeout : Nat := 5000
  /-- How many rows an owner may have. -/
  maxItems : Nat := 1000
deriving DecidableEq, Repr

/-- The committed rows of all owners. -/
structure Rows where
  /-- The rows of every owner, in the sequence in which they are kept. -/
  byOwner : Register String (List Item) := {}
  /-- The id of the next row.  The number has no upper limit; as long as fewer than `2 ^ 63`
  rows have been inserted it is that of a signed 64-bit counter. -/
  nextId : Nat := 1
  /-- How many rows an owner may have. -/
  capacity : Nat
deriving DecidableEq, Repr

/-- A copy of one owner's rows to work on. -/
structure Transaction where
  /-- The owner that the transaction was opened for. -/
  owner : String
  /-- The rows as the transaction has left them. -/
  staged : List Item
deriving DecidableEq, Repr

namespace Rows

/-- The rows of an owner in the sequence in which they are kept. -/
def of (r : Rows) (owner : String) : List Item := r.byOwner.getD owner []

/-- The rows of an owner in the order of their positions. -/
def list (r : Rows) (owner : String) : List Item := Item.sorted (r.of owner)

/-- Puts a list of rows in the place of an owner's rows. -/
def replace (r : Rows) (owner : String) (items : List Item) : Rows :=
  { r with byOwner := r.byOwner.insert owner items }

/-- Whether a position is good for a new row. -/
def acceptsOrder (order : Int) : Bool := decide (1 ≤ order)

/-- The error for a new row at a position that is not good. -/
def orderError : Error := .validation "Order must be greater than or equal to 1"

/-- Why a row cannot be added to an owner's rows. -/
def insertFault? (r : Rows) (owner : String) (order : Int) : Option StoreError :=
  if r.capacity ≤ (r.of owner).length then some (.capacityExceeded owner)
  else if (r.of owner).any fun i => i.order == order then some (.uniqueViolation owner order)
  else none

/-- Adds a row to an owner's rows. -/
def insert (r : Rows) (owner name : String) (order : Int) (key : Uuid) :
    Except Error Item × Rows :=
  match r.insertFault? owner order with
  | some e => (.error (.storage e), r)
  | none =>
    let item : Item := ⟨r.nextId, key, owner, name, order⟩
    (.ok item, { r.replace owner (r.of owner ++ [item]) with nextId := r.nextId + 1 })

/-- Removes the row with an id from an owner's rows, and tells whether it was there. -/
def delete (r : Rows) (owner : String) (id : Int) : Bool × Rows :=
  let kept := (r.of owner).filter fun i => i.id != id
  if kept.length = (r.of owner).length then (false, r) else (true, r.replace owner kept)

/-- The transaction that begins with an owner's rows as they are. -/
def snapshot (r : Rows) (owner : String) : Transaction := ⟨owner, r.of owner⟩

/-- Puts the rows of a transaction in the place of the owner's rows. -/
def publish (r : Rows) (tx : Transaction) : Rows := r.replace tx.owner tx.staged

end Rows

namespace Transaction

/-- Refuses any owner but the one that the transaction was opened for. -/
def checkOwner (tx : Transaction) (owner : String) : Except Error Unit :=
  if owner = tx.owner then .ok () else .error (.storage (.ownerMismatch tx.owner owner))

/-- The rows of the owner in the order of their positions. -/
def list (tx : Transaction) (owner : String) : Except Error (List Item) :=
  (tx.checkOwner owner).map fun _ => Item.sorted tx.staged

/-- Why the row with an id cannot go to a position: another row is there, or there is no
such row. -/
def placeFault? (tx : Transaction) (id : Int) (order : Int) : Option StoreError :=
  if tx.staged.any fun i => i.id != id && i.order == order then
    some (.uniqueViolation tx.owner order)
  else if !tx.staged.any fun i => i.id == id then some (.rowNotFound id tx.owner)
  else none

/-- Moves the row with an id to a position, as long as no other row is there.  All rows with
the id are moved, and this is one row, as ids are distinct in every state that can be
reached. -/
def place (tx : Transaction) (id : Int) (owner : String) (order : Int) :
    Except Error Unit × Transaction :=
  match tx.checkOwner owner with
  | .error e => (.error e, tx)
  | .ok () =>
    match tx.placeFault? id order with
    | some e => (.error (.storage e), tx)
    | none => (.ok (), { tx with staged := Item.reposition id order tx.staged })

end Transaction

namespace Rows

/-- What is logged when a transaction is opened or committed, without the time that it took. -/
def operationEvent (operation owner : String) (success : Bool) : Event where
  level := .debug
  source := .rows
  message := "Storage operation"
  fields := [("operation", .text operation), ("owner", .text owner), ("success", .flag success)]

/-- What is logged when a transaction is rolled back. -/
def rolledBackEvent (owner : String) : Event where
  level := .debug
  source := .rows
  message := "Transaction rolled back"
  fields := [("owner", .text owner)]

/-- Opens a transaction on an owner whose lock was obtained or not. -/
def begin (granted : Bool) (owner : String) : Attempt Rows Transaction := do
  Attempt.emit (operationEvent "begin" owner granted)
  if granted then ExceptT.lift (Action.read fun r => r.snapshot owner)
  else throw (.storage (.lockTimeout owner))

/-- Commits a transaction. -/
def commit (tx : Transaction) : Attempt Rows Unit := do
  ExceptT.lift (Action.update fun r => ((), r.publish tx))
  Attempt.emit (operationEvent "commit" tx.owner true)

/-- Rolls a transaction back. -/
def rollback (tx : Transaction) : Attempt Rows Unit := Attempt.emit (rolledBackEvent tx.owner)

/-- The five calls of the store, for an owner whose lock is obtained or not. -/
def interface (granted : Bool) : OrderStore Rows Transaction where
  begin := begin granted
  rowsOf owner := ExceptT.mk <| Action.update fun (r, tx) => (tx.list owner, r, tx)
  place id owner order := ExceptT.mk <| Action.update fun (r, tx) =>
    let (result, tx') := tx.place id owner order
    (result, r, tx')
  commit := commit
  rollback := rollback

end Rows

end Turnstile
