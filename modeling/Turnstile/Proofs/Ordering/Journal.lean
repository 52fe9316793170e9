/-
# A move and the journal of its calls

Any call that a move makes to its store may fail.  To speak of the n-th listing or the n-th
placement of a move, whatever the store, the store is observed: every call is written into
a journal together with its failure.  Observing changes nothing else, since a move on the
observed store mirrors the move on the store itself.

`Move.firstFailure` lists what can go wrong with a move, in the order of precedence, and
`Move.Carried` says what is left of the rows if nothing does.  What a store has to do for a
move to report the first of these failures is `OrderStore.IsTransactional`.
-/
import Turnstile.Proofs.Ordering.Attempt
import Turnstile.Proofs.Ordering.Positions

namespace Turnstile

variable {σ τ α : Type}

/-! ## Journals -/

/-- The failure of a call, if it failed. -/
def failure? : Except Error α → Option Error
  | .ok _ => none
  | .error e => some e

@[simp] theorem failure?_ok (a : α) : failure? (.ok a) = none := rfl

/-- What the calls of a move came to: the failures of those that failed, in the order of
the calls of a kind, and what the listings yielded. -/
structure Journal where
  begin : Option Error := none
  listings : List (Except Error (List Item)) := []
  placements : List (Option Error) := []
  commit : Option Error := none
  rollback : Option Error := none

namespace Journal

/-- The failure of the n-th listing, counted from zero. -/
def listFailure (j : Journal) (n : Nat) : Option Error := j.listings[n]?.bind failure?

/-- The rows that the first listing yielded. -/
def listed (j : Journal) : List Item :=
  match j.listings with
  | .ok items :: _ => items
  | _ => []

end Journal

/-- An attempt whose result is written into a journal. -/
def Attempt.noted (x : Attempt σ α) (write : Except Error α → Journal → Journal) :
    Attempt (σ × Journal) α :=
  ExceptT.mk fun s =>
    let o := x.runOn s.1
    ⟨o.result, (o.state, write o.result s.2), o.events⟩

/-- An attempt in a transaction whose result is written into a journal. -/
def Attempt.notedIn (x : Attempt (σ × τ) α) (write : Except Error α → Journal → Journal) :
    Attempt ((σ × Journal) × τ) α :=
  ExceptT.mk fun s =>
    let o := x.runOn (s.1.1, s.2)
    ⟨o.result, ((o.state.1, write o.result s.1.2), o.state.2), o.events⟩

/-- A store of which every call is written into a journal. -/
def OrderStore.observed (store : OrderStore σ τ) : OrderStore (σ × Journal) τ where
  begin owner := (store.begin owner).noted fun r j => { j with begin := failure? r }
  rowsOf owner := (store.rowsOf owner).notedIn fun r j =>
    { j with listings := j.listings ++ [r] }
  place id owner order := (store.place id owner order).notedIn fun r j =>
    { j with placements := j.placements ++ [failure? r] }
  commit tx := (store.commit tx).noted fun r j => { j with commit := failure? r }
  rollback tx := (store.rollback tx).noted fun r j => { j with rollback := failure? r }

/-- Observing a store changes nothing but the journal. -/
theorem OrderStore.observed_mirrors (store : OrderStore σ τ) :
    store.observed.Mirrors (fun s' s => s'.1 = s) store where
  begin _ := by rintro ⟨s, j⟩ _ rfl; exact ⟨rfl, rfl, rfl⟩
  rowsOf _ := by rintro ⟨⟨s, j⟩, tx⟩ ⟨_, _⟩ ⟨rfl, rfl⟩; exact ⟨rfl, ⟨rfl, rfl⟩, rfl⟩
  place _ _ _ := by rintro ⟨⟨s, j⟩, tx⟩ ⟨_, _⟩ ⟨rfl, rfl⟩; exact ⟨rfl, ⟨rfl, rfl⟩, rfl⟩
  commit _ := by rintro ⟨s, j⟩ _ rfl; exact ⟨rfl, rfl, rfl⟩
  rollback _ := by rintro ⟨s, j⟩ _ rfl; exact ⟨rfl, rfl, rfl⟩

/-- The journal of a move that is made in a state of a store. -/
def Move.journal (store : OrderStore σ τ) (m : Move) (s : σ) : Journal :=
  ((m.perform store.observed).runOn (s, {})).state.2

/-! ## Stores with transactions -/

/-- A store has transactions, given what its states show outside and inside of them, if
whatever succeeds or fails within one is not seen outside, and a commit publishes it if
the commit succeeds.  Which calls fail, and with what errors, is left open. -/
structure OrderStore.IsTransactional (store : OrderStore σ τ) (outside : σ → String → List Item)
    (inside : σ × τ → String → List Item) : Prop where
  begin_outside : ∀ owner s, outside ((store.begin owner).runOn s).state = outside s
  begin_inside : ∀ owner s tx, ((store.begin owner).runOn s).result = .ok tx →
    inside (((store.begin owner).runOn s).state, tx) = outside s
  rowsOf_outside : ∀ owner x, outside ((store.rowsOf owner).runOn x).state.1 = outside x.1
  rowsOf_inside : ∀ owner x items, ((store.rowsOf owner).runOn x).result = .ok items →
    inside ((store.rowsOf owner).runOn x).state = inside x ∧ items.Perm (inside x owner)
  place_outside : ∀ id owner order x,
    outside ((store.place id owner order).runOn x).state.1 = outside x.1
  place_inside : ∀ id owner order x, ((store.place id owner order).runOn x).result = .ok () →
    inside ((store.place id owner order).runOn x).state =
      Function.update (inside x) owner (Item.reposition id order (inside x owner))
  commit_ok : ∀ s tx, ((store.commit tx).runOn s).result = .ok () →
    outside ((store.commit tx).runOn s).state = inside (s, tx)
  commit_error : ∀ s tx e, ((store.commit tx).runOn s).result = .error e →
    outside ((store.commit tx).runOn s).state = outside s
  rollback_outside : ∀ s tx, outside ((store.rollback tx).runOn s).state = outside s

/-! ## What can go wrong, in order -/

namespace Move

/-- The first failure of steps that are taken in sequence: a step fails by itself, or else
its placement may fail. -/
def firstStepFailure : List (Option Error) → List (Option Error) → Option Error
  | [], _ => none
  | some e :: _, _ => some e
  | none :: own, [] => firstStepFailure own []
  | none :: own, placed :: rest => placed <|> firstStepFailure own rest

/-- What the steps that write fail with by themselves: every listed row is parked, which it
cannot be unless its id is positive, and then each is placed. -/
def stepFaults (items : List Item) : List (Option Error) :=
  items.map (fun i => if 0 < i.id then none else some (MoveFault.unparkable i.id).toError) ++
    List.replicate items.length none

/-- Why a move is refused from the start: no row is at its origin, or its target is not
among the positions. -/
def refusal? (m : Move) (rows : List Item) : Option Error :=
  (if ∃ i ∈ rows, i.order = m.origin then none
    else some (MoveFault.absent m.entity m.origin).toError) <|>
  (if 1 ≤ m.target ∧ m.target ≤ rows.length then none
    else some (MoveFault.targetOutside rows.length).toError)

/-- The first failure within the transaction of a move, given the committed rows of the
owner. -/
def failureWithin (m : Move) (rows : List Item) (j : Journal) : Option Error :=
  j.listFailure 0 <|>
  m.refusal? rows <|>
  if m.origin = m.target then none
  else
    (if Arranged rows then none else some MoveFault.notPermutation.toError) <|>
    firstStepFailure (stepFaults j.listed) j.placements <|>
    j.listFailure 1

/-- The first failure of a move, given the committed rows of the owner and what became of
the calls.  A failing rollback is none. -/
def firstFailure (m : Move) (rows : List Item) (j : Journal) : Option Error :=
  j.begin <|> m.failureWithin rows j <|> j.commit

/-- What a move that went well leaves of the rows of all owners, with the rows it reports:
all others are untouched, and so are its own if it moves a row to where it is already; else
they are shifted, if their ids tell them apart. -/
structure Carried (m : Move) (before after : String → List Item) (items : List Item) :
    Prop where
  items_perm : items.Perm (after m.owner)
  others : ∀ owner, owner ≠ m.owner → after owner = before owner
  stays : m.origin = m.target → after m.owner = before m.owner
  rows : ((before m.owner).map Item.id).Nodup →
    after m.owner = (before m.owner).map (Item.shift m.origin m.target)

end Move
end Turnstile
