/-
# Plans for moving a row

Moving the row at one position to another takes it out of the list and puts it back in at
the target; the rows between shift by one towards the gap.  A plan lists the ids with
their new positions, from the first position to the last.  Only a list whose positions are
exactly 1 to N, in any sequence, has plans.
-/
import Turnstile.Error
import Turnstile.Ordering.Item

namespace Turnstile

/-- Why a row cannot be moved. -/
inductive MoveFault where
  /-- No row of the owner is at the position. -/
  | absent (entity : Entity) (origin : Int)
  /-- The target is not among the positions of a list of so many rows. -/
  | targetOutside (count : Nat)
  /-- The positions of the rows are not 1 to N. -/
  | notPermutation
  /-- Origin or target is not among the positions of a list of so many rows. -/
  | outside (origin target : Int) (count : Nat)
  /-- The row with this id has no parking position. -/
  | unparkable (id : Int)
deriving DecidableEq, Repr

/-- The report of a fault. -/
def MoveFault.toError : MoveFault → Error
  | absent entity origin => .notFound s!"{entity.name} with order {origin} not found for user"
  | targetOutside count => .validation s!"Target order must be between 1 and {count}"
  | notPermutation => .internal "stored orders are not a permutation of 1..N"
  | outside origin target count =>
    .internal s!"cannot move {origin} to {target} in a list of {count}"
  | unparkable id => .internal s!"row id {id} cannot be parked on a negative order"

/-- The positions 1 to `n`. -/
def positions (n : Nat) : List Int := (List.range n).map fun i => Int.ofNat i + 1

/-- Whether a number is among the positions of a list of `n` rows. -/
def isPosition (n : Nat) (p : Int) : Bool := decide (1 ≤ p) && decide (p ≤ n)

/-- Whether the positions of rows are exactly 1 to N.  As N rows can fill N positions only
without sharing, it suffices that every position is filled; that there are as many positions
as rows follows, and is not tested on its own. -/
def isArranged (items : List Item) : Bool :=
  (positions items.length).all fun p => items.any fun i => i.order == p

/-- The positions 1 to `n` after the one at `origin` has been taken out and put back in at
`target`. -/
def moved (n : Nat) (origin target : Int) : List Int :=
  ((positions n).erase origin).insertIdx (target - 1).toNat origin

/-- The id of the row at a position. -/
def idAt? (items : List Item) (order : Int) : Option Int :=
  (items.find? fun i => i.order == order).map Item.id

/-- The ids in their new sequence, with their new positions. -/
def planOf (items : List Item) (origin target : Int) : List (Int × Int) :=
  ((moved items.length origin target).zip (positions items.length)).filterMap fun p =>
    (idAt? items p.1).map fun id => (id, p.2)

/-- The plan for moving the row at `origin` to `target`. -/
def planMove (items : List Item) (origin target : Int) : Except MoveFault (List (Int × Int)) :=
  if !isArranged items then .error .notPermutation
  else if !(isPosition items.length origin && isPosition items.length target) then
    .error (.outside origin target items.length)
  else .ok (planOf items origin target)

end Turnstile
