/-
# Attempts, run

What becomes of an attempt that is run on a state is an outcome: a result or an error, the
state that is left, and the events that were written.  This file says so for the ways in
which attempts are put together.

An attempt mirrors another one, given a relation between their states, if from related
states both yield the same, write the same and come to related states again.  Whatever is
put together from attempts that mirror each other mirrors again; a move looks at its store
only through the five calls, and so a move on one store mirrors the move on another as soon
as the calls do.  An attempt that mirrors itself wherever a property holds keeps the property.
-/
import Turnstile.Ordering.Move

namespace Turnstile

variable {σ σ' τ τ' α β : Type}

namespace Outcome

/-- An outcome with more events written before it. -/
def after (es : List Event) (o : Outcome σ α) : Outcome σ α :=
  ⟨o.result, o.state, es ++ o.events⟩

/-- Two outcomes that agree in all but their states, which are related. -/
structure Alike (R : σ' → σ → Prop) (o' : Outcome σ' α) (o : Outcome σ α) : Prop where
  result : o'.result = o.result
  state : R o'.state o.state
  events : o'.events = o.events

@[simp] theorem result_after (es : List Event) (o : Outcome σ α) :
    (o.after es).result = o.result := rfl

@[simp] theorem state_after (es : List Event) (o : Outcome σ α) :
    (o.after es).state = o.state := rfl

/-- Outcomes that are alike stay alike with the same events before them. -/
theorem Alike.after {R : σ' → σ → Prop} {o' : Outcome σ' α} {o : Outcome σ α}
    (h : o'.Alike R o) {es' es : List Event} (hes : es' = es) :
    (o'.after es').Alike R (o.after es) :=
  ⟨h.result, h.state, by rw [Outcome.after, hes, h.events]; rfl⟩

end Outcome

namespace Attempt

/-! ## Running what is put together -/

@[simp] theorem runOn_pure (a : α) (s : σ) :
    (pure a : Attempt σ α).runOn s = ⟨.ok a, s, []⟩ := rfl

@[simp] theorem runOn_throw (e : Error) (s : σ) :
    (throw e : Attempt σ α).runOn s = ⟨.error e, s, []⟩ := rfl

@[simp] theorem runOn_emit (e : Event) (s : σ) :
    (emit e : Attempt σ Unit).runOn s = ⟨.ok (), s, [e]⟩ := rfl

@[simp] theorem runOn_caught (x : Attempt σ α) (s : σ) :
    x.caught.runOn s = ⟨.ok (x.runOn s).result, (x.runOn s).state, (x.runOn s).events⟩ := by
  simp only [caught, runOn, ExceptT.run_lift, map_eq_pure_bind, Action.run_bind,
    Action.run_pure, List.append_nil]

@[simp] theorem orFail_ok (a : α) : (Move.orFail (.ok a) : Attempt σ α) = pure a := rfl

theorem runOn_bind_of_ok {x : Attempt σ α} {s : σ} {a : α} (h : (x.runOn s).result = .ok a)
    (f : α → Attempt σ β) :
    (x >>= f).runOn s = ((f a).runOn (x.runOn s).state).after (x.runOn s).events := by
  simp only [runOn, ExceptT.run_bind, Action.run_bind] at h ⊢
  rw [h]
  rfl

theorem runOn_bind_of_error {x : Attempt σ α} {s : σ} {e : Error}
    (h : (x.runOn s).result = .error e) (f : α → Attempt σ β) :
    (x >>= f).runOn s = ⟨.error e, (x.runOn s).state, (x.runOn s).events⟩ := by
  simp only [runOn, ExceptT.run_bind, Action.run_bind] at h ⊢
  rw [h]
  simp

theorem runOn_map (f : α → β) (x : Attempt σ α) (s : σ) :
    (f <$> x).runOn s = ⟨(x.runOn s).result.map f, (x.runOn s).state, (x.runOn s).events⟩ := by
  rw [map_eq_pure_bind]
  cases hr : (x.runOn s).result with
  | ok a =>
    rw [runOn_bind_of_ok hr, runOn_pure, Outcome.after, List.append_nil]
    rfl
  | error e =>
    rw [runOn_bind_of_error hr]
    rfl

theorem runOn_inTransaction (x : Attempt (σ × τ) α) (tx : τ) (s : σ) :
    runOn (ExceptT.lift (Action.inTransaction x.run tx)) s =
      ⟨.ok ((x.runOn (s, tx)).result, (x.runOn (s, tx)).state.2), (x.runOn (s, tx)).state.1,
        (x.runOn (s, tx)).events⟩ := by
  simp only [runOn, ExceptT.run_lift, map_eq_pure_bind, Action.run_bind, Action.run_pure,
    Action.run_inTransaction, List.append_nil]

/-! ## Mirrors -/

/-- What an attempt does on a state is like what another one does on any related state. -/
def Mirrors (R : σ' → σ → Prop) (x' : Attempt σ' α) (x : Attempt σ α) : Prop :=
  ∀ s' s, R s' s → (x'.runOn s').Alike R (x.runOn s)

/-- Wherever a property of states holds, it holds after an attempt. -/
def Keeps (P : σ → Prop) (x : Attempt σ α) : Prop :=
  Mirrors (fun s' s => s' = s ∧ P s) x x

theorem keeps_iff {P : σ → Prop} {x : Attempt σ α} :
    x.Keeps P ↔ ∀ s, P s → P (x.runOn s).state := by
  constructor
  · intro h s hs
    exact (h s s ⟨rfl, hs⟩).state.2
  · rintro h s' s ⟨rfl, hs⟩
    exact ⟨rfl, ⟨rfl, h s' hs⟩, rfl⟩

/-- States of a store beside the same state of a transaction. -/
def beside (R : σ' → σ → Prop) (x' : σ' × τ) (x : σ × τ) : Prop := R x'.1 x.1 ∧ x'.2 = x.2

/-- In a transaction, a property of the states of the store is kept beside it. -/
theorem keeps_beside {P : σ → Prop} {x : Attempt (σ × τ) α}
    (h : ∀ y, P y.1 → P (x.runOn y).state.1) :
    Mirrors (beside fun s' s => s' = s ∧ P s) x x := by
  intro y' y hy
  obtain ⟨⟨hstore, hP⟩, htx⟩ := hy
  obtain rfl : y' = y := Prod.ext hstore htx
  exact ⟨rfl, ⟨⟨rfl, h y' hP⟩, rfl⟩, rfl⟩

namespace Mirrors

variable {R : σ' → σ → Prop}

theorem pure (a : α) : Mirrors R (Pure.pure a) (Pure.pure a) := fun _ _ h => ⟨rfl, h, rfl⟩

theorem throw (e : Error) : Mirrors R (throw e : Attempt σ' α) (throw e) :=
  fun _ _ h => ⟨rfl, h, rfl⟩

theorem emit (e : Event) : Mirrors R (emit e) (emit e) := fun _ _ h => ⟨rfl, h, rfl⟩

theorem orFail (r : Except MoveFault α) : Mirrors R (Move.orFail r) (Move.orFail r) := by
  cases r with
  | ok a => exact pure a
  | error f => exact throw f.toError

theorem bind {x' : Attempt σ' α} {x : Attempt σ α} {f' : α → Attempt σ' β}
    {f : α → Attempt σ β} (hx : Mirrors R x' x) (hf : ∀ a, Mirrors R (f' a) (f a)) :
    Mirrors R (x' >>= f') (x >>= f) := by
  intro s' s h
  have hs := hx s' s h
  cases hr : (x.runOn s).result with
  | ok a =>
    rw [runOn_bind_of_ok hr, runOn_bind_of_ok (hs.result.trans hr)]
    exact (hf a _ _ hs.state).after hs.events
  | error e =>
    rw [runOn_bind_of_error hr, runOn_bind_of_error (hs.result.trans hr)]
    exact ⟨rfl, hs.state, hs.events⟩

theorem caught {x' : Attempt σ' α} {x : Attempt σ α} (hx : Mirrors R x' x) :
    Mirrors R x'.caught x.caught := by
  intro s' s h
  have hs := hx s' s h
  rw [runOn_caught, runOn_caught]
  exact ⟨congrArg Except.ok hs.result, hs.state, hs.events⟩

theorem forM {f' : α → Attempt σ' Unit} {f : α → Attempt σ Unit}
    (hf : ∀ a, Mirrors R (f' a) (f a)) (l : List α) : Mirrors R (l.forM f') (l.forM f) := by
  induction l with
  | nil => exact pure ()
  | cons a l ih => exact (hf a).bind fun _ => ih

/-- A transaction that mirrors another one leaves the same transaction behind. -/
theorem inTransaction {x' : Attempt (σ' × τ) α} {x : Attempt (σ × τ) α}
    (hx : Mirrors (beside R) x' x) (tx : τ) :
    Mirrors R (ExceptT.lift (Action.inTransaction x'.run tx))
      (ExceptT.lift (Action.inTransaction x.run tx)) := by
  intro s' s h
  have hs := hx (s', tx) (s, tx) ⟨h, rfl⟩
  rw [runOn_inTransaction, runOn_inTransaction]
  exact ⟨by rw [hs.result, hs.state.2], hs.state.1, hs.events⟩

end Mirrors
end Attempt

/-- A store whose calls mirror those of another one. -/
structure OrderStore.Mirrors (R : σ' → σ → Prop) (store' : OrderStore σ' τ)
    (store : OrderStore σ τ) : Prop where
  begin : ∀ owner, (store'.begin owner).Mirrors R (store.begin owner)
  rowsOf : ∀ owner, (store'.rowsOf owner).Mirrors (Attempt.beside R) (store.rowsOf owner)
  place : ∀ row owner order,
    (store'.place row owner order).Mirrors (Attempt.beside R) (store.place row owner order)
  commit : ∀ tx, (store'.commit tx).Mirrors R (store.commit tx)
  rollback : ∀ tx, (store'.rollback tx).Mirrors R (store.rollback tx)

namespace Move

/-! ## How a transaction ends -/

section

variable (store : OrderStore σ τ)

/-- A move goes on with what opening its transaction has come to. -/
theorem perform_runOn (m : Move) (s : σ) :
    let o := (store.begin m.owner).runOn s
    (m.perform store).runOn s =
      Outcome.after (m.startEvent :: o.events) ((proceed store m o.result).runOn o.state) := by
  have hcaught := Attempt.runOn_caught (store.begin m.owner) s
  rw [perform, Attempt.runOn_bind_of_ok (a := ()) rfl, Attempt.runOn_emit,
    Attempt.runOn_bind_of_ok (congrArg Outcome.result hcaught), hcaught]
  exact rfl

/-- After what happens within its transaction, a move commits or rolls back. -/
theorem complete_runOn (m : Move) (tx : τ) (s : σ) :
    let o := (within store m).runOn (s, tx)
    (complete store m tx).runOn s = Outcome.after o.events (Attempt.runOn
      (match o.result with
        | .ok items => conclude store m o.state.2 items
        | .error e => abandon store m o.state.2 e) o.state.1) := by
  have hrun := Attempt.runOn_inTransaction (within store m) tx s
  have hbind := fun f : Except Error (List Item) × τ → Attempt σ (List Item) =>
    Attempt.runOn_bind_of_ok (congrArg Outcome.result hrun) f
  rw [hrun] at hbind
  exact hbind _

/-- A move that went well so far fails if and only if the commit fails. -/
theorem conclude_runOn (m : Move) (tx : τ) (items : List Item) (s : σ) :
    ((conclude store m tx items).runOn s).result =
        ((store.commit tx).runOn s).result.map (fun _ => items) ∧
      ((conclude store m tx items).runOn s).state = ((store.commit tx).runOn s).state := by
  rw [conclude]
  cases hr : ((store.commit tx).runOn s).result with
  | error e =>
    rw [Attempt.runOn_bind_of_error hr]
    exact ⟨rfl, rfl⟩
  | ok u =>
    rw [Attempt.runOn_bind_of_ok hr]
    exact ⟨rfl, rfl⟩

/-- A move that failed reports its own failure, whatever becomes of the rollback. -/
theorem abandon_runOn (m : Move) (tx : τ) (e : Error) (s : σ) :
    ((abandon store m tx e).runOn s).result = .error e ∧
      ((abandon store m tx e).runOn s).state = ((store.rollback tx).runOn s).state := by
  have hcaught := Attempt.runOn_caught (store.rollback tx) s
  rw [abandon, Attempt.runOn_bind_of_ok (a := ()) rfl]
  cases hr : ((store.rollback tx).runOn s).result with
  | error e' =>
    rw [hr] at hcaught
    rw [Attempt.runOn_emit, Attempt.runOn_bind_of_ok (congrArg Outcome.result hcaught), hcaught]
    exact ⟨rfl, rfl⟩
  | ok u =>
    rw [hr] at hcaught
    rw [Attempt.runOn_emit, Attempt.runOn_bind_of_ok (congrArg Outcome.result hcaught), hcaught]
    exact ⟨rfl, rfl⟩

end

/-! ## Moves on stores that mirror each other -/

open Attempt (Mirrors beside)

/-- What happens within a transaction depends on the two calls that work within it. -/
theorem within_mirrors {S : σ' × τ' → σ × τ → Prop} {store' : OrderStore σ' τ'}
    {store : OrderStore σ τ}
    (hrows : ∀ owner, Mirrors S (store'.rowsOf owner) (store.rowsOf owner))
    (hplace : ∀ row owner order,
      Mirrors S (store'.place row owner order) (store.place row owner order)) (m : Move) :
    Mirrors S (within store' m) (within store m) := by
  refine (hrows m.owner).bind fun items => ?_
  cases m.fault? items with
  | some f => exact .throw f.toError
  | none =>
    dsimp only
    split
    · exact .pure items
    · refine (Mirrors.orFail _).bind fun plan => .bind ?_ fun _ => hrows m.owner
      refine (Mirrors.forM (fun i => ?_) items).bind fun _ => Mirrors.forM (fun p => ?_) plan
      · exact (Mirrors.orFail _).bind fun order => hplace i.id m.owner order
      · exact hplace p.1 m.owner p.2

variable {R : σ' → σ → Prop} {store' : OrderStore σ' τ} {store : OrderStore σ τ}

theorem complete_mirrors (h : store'.Mirrors R store) (m : Move) (tx : τ) :
    Mirrors R (complete store' m tx) (complete store m tx) := by
  refine (within_mirrors h.rowsOf h.place m).inTransaction tx |>.bind fun ⟨result, tx'⟩ => ?_
  cases result with
  | ok items => exact (h.commit tx').bind fun _ => (Mirrors.emit _).bind fun _ => .pure items
  | error e =>
    refine (Mirrors.emit _).bind fun _ => (h.rollback tx').caught.bind fun r => ?_
    cases r with
    | ok _ => exact .throw e
    | error e' => exact (Mirrors.emit _).bind fun _ => .throw e

/-- A move on a store that mirrors another one mirrors the move on that one. -/
theorem perform_mirrors (h : store'.Mirrors R store) (m : Move) :
    Mirrors R (m.perform store') (m.perform store) := by
  refine (Mirrors.emit _).bind fun _ => (h.begin m.owner).caught.bind fun r => ?_
  cases r with
  | ok tx => exact complete_mirrors h m tx
  | error e => exact (Mirrors.emit _).bind fun _ => .throw e

end Move
end Turnstile
