/-
# Ordered rows

Every owner has a list of rows, each at a position of its own.  A row is addressed by its
id; its position is its order.
-/
import Turnstile.Uuid

namespace Turnstile

/-- The kinds of ordered rows, as messages name them. -/
inductive Entity where
  | priority | status
deriving DecidableEq, Repr

/-- The name of a kind of rows. -/
def Entity.name : Entity → String
  | .priority => "Priority"
  | .status => "Status"

/-- A row of an owner's list. -/
structure Item where
  /-- The number of the row, never given to another one. -/
  id : Int
  /-- The public key of the row. -/
  key : Uuid
  owner : String
  name : String
  /-- The position of the row within the owner's list. -/
  order : Int
deriving DecidableEq, Repr

namespace Item

/-- Rows in the order of their positions; rows at one position keep their sequence. -/
def sorted (items : List Item) : List Item :=
  items.mergeSort fun a b => decide (a.order ≤ b.order)

/-- The row with an id, moved to a position, in a list of rows. -/
def reposition (id order : Int) (items : List Item) : List Item :=
  items.map fun i => if i.id = id then { i with order := order } else i

theorem sorted_perm (items : List Item) : (sorted items).Perm items :=
  List.mergeSort_perm _ _

end Item

end Turnstile
