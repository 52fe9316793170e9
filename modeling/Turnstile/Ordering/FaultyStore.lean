/-
# A store that fails on demand

A store for trying out what becomes of a move when calls fail.  It keeps its rows in the
sequence given, checks nothing, writes every call down, and fails the calls that a script
names.  A transaction is a copy of all rows; a commit puts the copy in their place.
-/
import Turnstile.Ordering.Move

namespace Turnstile

/-- Which calls fail. -/
structure Script where
  begin : Bool := false
  commit : Bool := false
  rollback : Bool := false
  /-- Which listings fail, counted from one. -/
  list : Nat → Bool := fun _ => false
  /-- Which placements fail, counted from one. -/
  place : Nat → Bool := fun _ => false

/-- A call to the store. -/
inductive Call where
  | begin (owner : String)
  | list (owner : String)
  | place (id : Int) (owner : String) (order : Int)
  | commit
  | rollback
deriving DecidableEq, Repr

/-- A call as a line of text. -/
def Call.text : Call → String
  | begin owner => s!"begin {owner}"
  | list owner => s!"list {owner}"
  | place id owner order => s!"update {owner} {id} {order}"
  | commit => "commit"
  | rollback => "rollback"

/-- A store that fails on demand. -/
structure FaultyStore where
  rows : List Item
  script : Script := {}
  /-- The calls made so far. -/
  calls : List Call := []
  /-- The number of listings so far. -/
  listings : Nat := 0
  /-- The number of placements so far. -/
  placements : Nat := 0

namespace FaultyStore

/-- The failure of a call. -/
def injected (what : String) : Error := .storage (.backend ("injected: " ++ what))

/-- Writes a call down. -/
def note (c : Call) (s : FaultyStore) : FaultyStore := { s with calls := s.calls ++ [c] }

/-- The result of a call that fails if a condition holds. -/
def answer {α : Type} (fails : Bool) (what : String) (a : α) : Except Error α :=
  if fails then .error (injected what) else .ok a

/-- The five calls of a store that fails on demand. -/
def interface : OrderStore FaultyStore (List Item) where
  begin owner := ExceptT.mk <| Action.update fun s =>
    (answer s.script.begin "begin" s.rows, s.note (.begin owner))
  rowsOf owner := ExceptT.mk <| Action.update fun (s, copy) =>
    let n := s.listings + 1
    (answer (s.script.list n) s!"list {n}" (copy.filter fun i => i.owner == owner),
      { s.note (.list owner) with listings := n }, copy)
  place id owner order := ExceptT.mk <| Action.update fun (s, copy) =>
    let n := s.placements + 1
    let fails := s.script.place n
    let move := fun i : Item => if i.owner = owner ∧ i.id = id then { i with order := order } else i
    (answer fails s!"update {n}" (),
      { s.note (.place id owner order) with placements := n },
      if fails then copy else copy.map move)
  commit copy := ExceptT.mk <| Action.update fun s =>
    let fails := s.script.commit
    (answer fails "commit" (),
      { s.note .commit with rows := if fails then s.rows else copy })
  rollback _ := ExceptT.mk <| Action.update fun s =>
    (answer s.script.rollback "rollback" (), s.note .rollback)

/-- Makes a move. -/
def perform (m : Move) : Attempt FaultyStore (List Item) := m.perform interface

end FaultyStore

end Turnstile
