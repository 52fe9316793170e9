/-
# What holds in every state that can be reached

Rows come into being by insertion alone, and after that they are only moved or removed.  A
property of an owner's rows is lasting if it survives these three; then it holds, in every
state that any interleaving of tasks can lead to, of the committed rows of every owner and
of the copy of every open transaction.
-/
import Turnstile.Proofs.Store.Steps

namespace Turnstile

/-! ## Lasting properties of rows -/

/-- A property of an owner's rows, given the id of the next row, that all work on rows keeps
as long as it keeps to the rules of the store. -/
structure Rows.Lasting (capacity : Nat) (P : String → Nat → List Item → Prop) : Prop where
  nil : ∀ owner, P owner 1 []
  later : ∀ {owner next next' rows}, next ≤ next' → P owner next rows → P owner next' rows
  insert : ∀ {owner next rows} name order key, rows.length < capacity →
    (∀ i ∈ rows, i.order ≠ order) → P owner next rows →
    P owner (next + 1) (rows ++ [⟨next, key, owner, name, order⟩])
  delete : ∀ {owner next rows} id, P owner next rows →
    P owner next (rows.filter fun i => i.id != id)
  place : ∀ {owner next rows} id order, (∀ i ∈ rows, i.id ≠ id → i.order ≠ order) →
    P owner next rows → P owner next (Item.reposition id order rows)

variable {capacity : Nat} {P : String → Nat → List Item → Prop}

/-- The committed rows of all owners have a property. -/
structure Rows.All (capacity : Nat) (P : String → Nat → List Item → Prop) (r : Rows) : Prop where
  capacity_eq : r.capacity = capacity
  of : ∀ owner, P owner r.nextId (r.of owner)

/-- The copy of a transaction has a property. -/
def Transaction.Has (P : String → Nat → List Item → Prop) (r : Rows) (tx : Transaction) : Prop :=
  P tx.owner r.nextId tx.staged

namespace Rows

variable {r : Rows}

theorem All.replace (h : r.All capacity P) {owner : String} {items : List Item}
    (hitems : P owner r.nextId items) : (r.replace owner items).All capacity P := by
  refine ⟨h.capacity_eq, fun o => ?_⟩
  rw [of_replace, Function.update_apply]
  split
  · next heq =>
    subst heq
    exact hitems
  · exact h.of o

theorem All.insert (hP : Lasting capacity P) (h : r.All capacity P) (owner name : String)
    (order : Int) (key : Uuid) :
    (r.insert owner name order key).2.All capacity P ∧
      r.nextId ≤ (r.insert owner name order key).2.nextId := by
  obtain ⟨e, hinsert⟩ | ⟨hroom, hfree, r', hinsert, hof, hnext, hcapacity⟩ :=
    r.insert_cases owner name order key
  · rw [hinsert]
    exact ⟨h, le_refl _⟩
  · rw [hinsert]
    refine ⟨⟨hcapacity.trans h.capacity_eq, fun o => ?_⟩, (Nat.le_succ _).trans hnext.ge⟩
    rw [hof, hnext, Function.update_apply]
    split
    · next heq =>
      subst heq
      exact hP.insert name order key (h.capacity_eq ▸ hroom) hfree (h.of o)
    · exact hP.later (Nat.le_succ _) (h.of o)

theorem All.delete (hP : Lasting capacity P) (h : r.All capacity P) (owner : String) (id : Int) :
    (r.delete owner id).2.All capacity P ∧ r.nextId ≤ (r.delete owner id).2.nextId := by
  obtain ⟨hnext, hcapacity⟩ := r.delete_keeps owner id
  refine ⟨⟨hcapacity.trans h.capacity_eq, fun o => ?_⟩, hnext.ge⟩
  rw [of_delete, hnext, Function.update_apply]
  split
  · next heq =>
    subst heq
    exact hP.delete id (h.of o)
  · exact h.of o

end Rows

theorem Transaction.Has.place (hP : Rows.Lasting capacity P) {r : Rows} {tx : Transaction}
    (h : tx.Has P r) (id : Int) (owner : String) (order : Int) :
    (tx.place id owner order).2.Has P r := by
  obtain ⟨e, hplace⟩ | ⟨-, hfree, hplace⟩ := tx.place_cases id owner order
  · rw [hplace]
    exact h
  · rw [hplace]
    exact hP.place id order hfree h

/-! ## The work of tasks -/

/-- Within its transaction a move leaves the committed rows alone and does to the copy what
the rules allow. -/
theorem Move.within_has (hP : Rows.Lasting capacity P) (granted : Bool) (m : Move) {r : Rows}
    {tx : Transaction} (h : tx.Has P r) :
    let o := (m.within (Rows.interface granted)).runOn (r, tx)
    o.state.1 = r ∧ o.state.2.Has P r := by
  have hkeeps : (m.within (Rows.interface granted)).Keeps fun x => x.1 = r ∧ x.2.Has P r := by
    refine within_mirrors (fun owner => Attempt.keeps_iff.2 fun x hx => hx)
      (fun id owner order => Attempt.keeps_iff.2 fun x hx => ⟨hx.1, ?_⟩) m
    exact hx.2.place hP id owner order
  exact Attempt.keeps_iff.1 hkeeps (r, tx) ⟨rfl, h⟩

theorem Move.complete_all (hP : Rows.Lasting capacity P) (granted : Bool) (m : Move) {r : Rows}
    {tx : Transaction} (h : r.All capacity P) (htx : tx.Has P r) :
    let o := (m.complete (Rows.interface granted) tx).runOn r
    o.state.All capacity P ∧ r.nextId ≤ o.state.nextId := by
  obtain ⟨hrows, hhas⟩ := m.within_has hP granted htx
  rw [complete_runOn]
  dsimp only [Outcome.state_after]
  rcases hwithin : (m.within (Rows.interface granted)).runOn (r, tx) with ⟨result, ⟨r', tx'⟩, es⟩
  rw [hwithin] at hrows hhas
  obtain rfl : r' = r := hrows
  cases result with
  | ok items =>
    obtain ⟨-, hstate⟩ := conclude_runOn (Rows.interface granted) m tx' items r'
    dsimp only
    rw [hstate]
    exact ⟨h.replace hhas, le_refl _⟩
  | error e =>
    obtain ⟨-, hstate⟩ := abandon_runOn (Rows.interface granted) m tx' e r'
    dsimp only
    rw [hstate]
    exact ⟨h, le_refl _⟩

/-- Whatever a task does to the rows, the rules allow; it never takes an id back. -/
theorem Task.work_all (hP : Rows.Lasting capacity P) (granted : Bool) (task : Task) {r : Rows}
    (h : r.All capacity P) :
    let o := (task.work granted).runOn r
    o.state.All capacity P ∧ r.nextId ≤ o.state.nextId := by
  cases granted with
  | false =>
    intro o
    rw [(task.work_false_runOn r).2]
    exact ⟨h, le_refl _⟩
  | true =>
    cases task with
    | insert owner name order key =>
      rw [Task.work_insert_runOn]
      exact h.insert hP owner name order key
    | delete owner id =>
      rw [Task.work_delete_runOn]
      exact h.delete hP owner id
    | begin owner => exact ⟨h, le_refl _⟩
    | move m =>
      rw [Task.work_move_runOn]
      have hsnapshot : (r.snapshot m.owner).Has P r := h.of m.owner
      exact m.complete_all hP true h hsnapshot

/-! ## Invariants -/

namespace Machine

/-- What holds at first and is kept by all steps of a kind holds after any of them. -/
theorem steps_induction_of {Q : Machine → Prop} {kind : Step → Prop}
    (hQ : ∀ {m st response m'}, kind st → Q m → m.Taken st response m' → Q m') {ss : List Step}
    (hss : ∀ st ∈ ss, kind st) {m : Machine} (hm : Q m) : Q ((steps ss).run m).state := by
  induction ss generalizing m with
  | nil => exact hm
  | cons st ss ih =>
    exact ih (fun st' hst' => hss st' (List.mem_cons_of_mem _ hst'))
      (hQ (hss st List.mem_cons_self) hm (step_taken st m))

/-- What holds at first and is kept by every step holds after any steps. -/
theorem steps_induction {Q : Machine → Prop}
    (hQ : ∀ {m st response m'}, Q m → m.Taken st response m' → Q m') (ss : List Step)
    {m : Machine} (hm : Q m) : Q ((steps ss).run m).state :=
  steps_induction_of (fun (_ : True) => hQ) (fun _ _ => trivial) hm

/-- The committed rows of all owners and the copies of all open transactions have a
property. -/
structure Sound (capacity : Nat) (P : String → Nat → List Item → Prop) (m : Machine) : Prop where
  rows : m.rows.All capacity P
  opened : ∀ ticket tx, m.opened.get? ticket = some tx → tx.Has P m.rows

/-- A lasting property is kept by whatever a step can do. -/
theorem Sound.taken (hP : Rows.Lasting capacity P) {m m' : Machine} {st : Step}
    {response : Response} (h : m.Sound capacity P) (hm : m.Taken st response m') :
    m'.Sound capacity P := by
  cases hm with
  | impossible _ _ | refused _ _ _ | listed _ | txListed _ _ _ _ => exact h
  | arrived _ _ | gaveUp _ _ _ _ => exact ⟨h.rows, h.opened⟩
  | worked ticket task _ _ _ =>
    -- ids may have been given meanwhile, which the copies that are open have to bear
    obtain ⟨hall, hnext⟩ := task.work_all hP true h.rows
    exact ⟨hall, fun ticket' tx htx => hP.later hnext (h.opened ticket' tx htx)⟩
  | begun ticket owner _ _ =>
    refine ⟨h.rows, fun ticket' tx htx => ?_⟩
    rw [keep, Register.get?_insert] at htx
    split at htx
    · obtain rfl : m.rows.snapshot owner = tx := Option.some.inj htx
      exact h.rows.of owner
    · exact h.opened ticket' tx htx
  | placed ticket tx htx id owner order =>
    refine ⟨h.rows, fun ticket' tx' htx' => ?_⟩
    rw [Register.get?_insert] at htx'
    split at htx'
    · obtain rfl : (tx.place id owner order).2 = tx' := Option.some.inj htx'
      exact (h.opened ticket tx htx).place hP id owner order
    · exact h.opened ticket' tx' htx'
  | committed ticket tx htx =>
    -- a copy that has the property is put in the place of the owner's rows
    exact ⟨h.rows.replace (h.opened ticket tx htx),
      fun ticket' tx' htx' => h.opened ticket' tx' (Register.get?_of_erase htx')⟩
  | discarded ticket tx _ _ _ =>
    exact ⟨h.rows, fun ticket' tx' htx' => h.opened ticket' tx' (Register.get?_of_erase htx')⟩

/-- The machine that steps lead to from a store without rows. -/
def reached (settings : StoreSettings) (ss : List Step) : Machine :=
  ((steps ss).run (ofSettings settings)).state

theorem reached_sound {settings : StoreSettings} (hP : Rows.Lasting settings.maxItems P)
    (ss : List Step) : (reached settings ss).Sound settings.maxItems P :=
  steps_induction (fun h hm => h.taken hP hm) ss ⟨⟨rfl, hP.nil⟩, nofun⟩

end Machine

end Turnstile
