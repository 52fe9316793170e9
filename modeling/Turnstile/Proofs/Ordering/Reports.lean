/-
# What a move reports

A move writes one event when it begins, and most often one or two more that say what became of
it.  Which these are is settled by the result of the move and by which of the calls that open
and close its transaction failed (`Move.report`).

The store may write events as well.  To tell the move's own events from those of the store, the
move is made on a silenced store, which does the same as the store and writes nothing.

Whatever fails, a move that fails reports trouble with its owner, with one exception.  If the
commit fails, the failure is returned and no event tells of it.
-/
import Turnstile.Proofs.Ordering.Failure

namespace Turnstile

variable {σ τ α β : Type}

/-! ## Silence -/

/-- Outcomes that agree, the first of which comes with no events but those of the second. -/
structure Outcome.Quieter (o' o : Outcome σ α) : Prop where
  result : o'.result = o.result
  state : o'.state = o.state
  events : o'.events.Sublist o.events

theorem Outcome.Quieter.after {o' o : Outcome σ α} (h : o'.Quieter o) {es' es : List Event}
    (hes : es'.Sublist es) : (o'.after es').Quieter (o.after es) :=
  ⟨h.result, h.state, hes.append h.events⟩

namespace Attempt

/-- An attempt that does the same and writes nothing. -/
def silent (x : Attempt σ α) : Attempt σ α :=
  ExceptT.mk fun s => ⟨(x.runOn s).result, (x.runOn s).state, []⟩

@[simp] theorem runOn_silent (x : Attempt σ α) (s : σ) :
    x.silent.runOn s = ⟨(x.runOn s).result, (x.runOn s).state, []⟩ := rfl

theorem ext_runOn {x y : Attempt σ α} (h : ∀ s, x.runOn s = y.runOn s) : x = y := funext h

theorem silent_bind (x : Attempt σ α) (f : α → Attempt σ β) :
    (x >>= f).silent = x.silent >>= fun a => (f a).silent := by
  refine ext_runOn fun s => ?_
  rw [runOn_silent]
  cases hr : (x.runOn s).result with
  | ok a =>
    have hr' : (x.silent.runOn s).result = .ok a := hr
    rw [runOn_bind_of_ok hr, runOn_bind_of_ok hr']
    rfl
  | error e =>
    have hr' : (x.silent.runOn s).result = .error e := hr
    rw [runOn_bind_of_error hr, runOn_bind_of_error hr']
    rfl

theorem silent_forM (f : α → Attempt σ Unit) (l : List α) :
    (l.forM f).silent = l.forM fun a => (f a).silent := by
  induction l with
  | nil => rfl
  | cons a l ih => exact (silent_bind _ _).trans (congrArg _ (funext fun _ => ih))

theorem silent_orFail (r : Except MoveFault α) :
    (Move.orFail r : Attempt σ α).silent = Move.orFail r := by
  cases r <;> rfl

end Attempt

/-- A store that does the same and writes nothing. -/
def OrderStore.silenced (store : OrderStore σ τ) : OrderStore σ τ where
  begin owner := (store.begin owner).silent
  rowsOf owner := (store.rowsOf owner).silent
  place id owner order := (store.place id owner order).silent
  commit tx := (store.commit tx).silent
  rollback tx := (store.rollback tx).silent

/-- It does not matter whether a store is first silenced or first observed. -/
theorem OrderStore.observed_silenced (store : OrderStore σ τ) :
    store.silenced.observed = store.observed.silenced := rfl

namespace Move

open Attempt (silent_bind silent_forM silent_orFail)

variable (store : OrderStore σ τ) (m : Move)

/-- Within its transaction a move writes nothing itself. -/
theorem within_silenced : within store.silenced m = (within store m).silent := by
  rw [within, within, silent_bind]
  refine bind_congr fun items => ?_
  cases m.fault? items with
  | some f => rfl
  | none =>
    dsimp only
    split
    · rfl
    · rw [silent_bind, silent_orFail]
      refine bind_congr fun plan => ?_
      rw [silent_bind, rearrange, rearrange, silent_bind, silent_forM, silent_forM]
      simp only [park, silent_bind, silent_orFail]
      rfl

/-! ## The events of a move -/

theorem events_conclude (tx : τ) (items : List Item) (s : σ) :
    ((conclude store m tx items).runOn s).events =
      ((store.commit tx).runOn s).events ++
        if (failure? ((store.commit tx).runOn s).result).isSome then []
        else [m.committedEvent items] := by
  rw [conclude]
  cases hr : ((store.commit tx).runOn s).result with
  | ok u =>
    rw [Attempt.runOn_bind_of_ok hr]
    rfl
  | error e =>
    rw [Attempt.runOn_bind_of_error hr]
    exact (List.append_nil _).symm

theorem events_abandon (tx : τ) (e : Error) (s : σ) :
    ((abandon store m tx e).runOn s).events =
      m.rolledBackEvent e :: (((store.rollback tx).runOn s).events ++
        ((failure? ((store.rollback tx).runOn s).result).map m.rollbackFailedEvent).toList) := by
  have hcaught := Attempt.runOn_caught (store.rollback tx) s
  rw [abandon, Attempt.runOn_bind_of_ok (a := ()) rfl, Attempt.runOn_emit,
    Attempt.runOn_bind_of_ok (congrArg Outcome.result hcaught), hcaught]
  cases ((store.rollback tx).runOn s).result <;> rfl

theorem conclude_quieter (tx : τ) (items : List Item) (s : σ) :
    ((conclude store.silenced m tx items).runOn s).Quieter
      ((conclude store m tx items).runOn s) := by
  obtain ⟨hresult, hstate⟩ := conclude_runOn store m tx items s
  obtain ⟨hresult', hstate'⟩ := conclude_runOn store.silenced m tx items s
  refine ⟨hresult'.trans hresult.symm, hstate'.trans hstate.symm, ?_⟩
  rw [events_conclude, events_conclude]
  exact (List.nil_sublist _).append (.refl _)

theorem abandon_quieter (tx : τ) (e : Error) (s : σ) :
    ((abandon store.silenced m tx e).runOn s).Quieter ((abandon store m tx e).runOn s) := by
  obtain ⟨hresult, hstate⟩ := abandon_runOn store m tx e s
  obtain ⟨hresult', hstate'⟩ := abandon_runOn store.silenced m tx e s
  refine ⟨hresult'.trans hresult.symm, hstate'.trans hstate.symm, ?_⟩
  rw [events_abandon, events_abandon]
  exact ((List.nil_sublist _).append (.refl _)).cons_cons _

theorem complete_quieter (tx : τ) (s : σ) :
    ((complete store.silenced m tx).runOn s).Quieter ((complete store m tx).runOn s) := by
  rw [complete_runOn, complete_runOn, within_silenced, Attempt.runOn_silent]
  refine Outcome.Quieter.after ?_ (List.nil_sublist _)
  cases ((within store m).runOn (s, tx)).result with
  | ok items => exact conclude_quieter store m _ items _
  | error e => exact abandon_quieter store m _ e _

/-- A move on a silenced store comes to the same, and it writes nothing that it would not write
on the store itself. -/
theorem perform_quieter (s : σ) :
    ((m.perform store.silenced).runOn s).Quieter ((m.perform store).runOn s) := by
  rw [perform_runOn, perform_runOn]
  refine Outcome.Quieter.after ?_ ((List.nil_sublist _).cons_cons _)
  change ((proceed store.silenced m ((store.begin m.owner).runOn s).result).runOn _).Quieter _
  cases ((store.begin m.owner).runOn s).result with
  | ok tx => exact complete_quieter store m tx _
  | error e => exact ⟨rfl, rfl, .refl _⟩

/-- What a move writes itself, and not its store. -/
def ownEvents (s : σ) : List Event := ((m.perform store.silenced).runOn s).events

/-! ## What they say -/

/-- What a move writes itself, given what became of its calls and its result. -/
def report (j : Journal) : Except Error (List Item) → List Event
  | .ok items => [m.startEvent, m.committedEvent items]
  | .error e =>
    if j.commit.isSome then [m.startEvent]
    else if j.begin.isSome then [m.startEvent, m.refusedEvent e]
    else m.startEvent :: m.rolledBackEvent e :: (j.rollback.map m.rollbackFailedEvent).toList

/-- What happens within the transaction of a move does not open or close it. -/
theorem journal_within (s : σ) (tx : τ) :
    let j := ((within store.observed m).runOn ((s, {}), tx)).state.1.2
    j.begin = none ∧ j.commit = none := by
  let P : σ × Journal → Prop := fun s => s.2.begin = none ∧ s.2.commit = none
  have hrows : ∀ owner, Attempt.Mirrors (Attempt.beside fun s' s => s' = s ∧ P s)
      (store.observed.rowsOf owner) (store.observed.rowsOf owner) :=
    fun owner => Attempt.keeps_beside fun _ h => h
  have hplace : ∀ id owner order, Attempt.Mirrors (Attempt.beside fun s' s => s' = s ∧ P s)
      (store.observed.place id owner order) (store.observed.place id owner order) :=
    fun id owner order => Attempt.keeps_beside fun _ h => h
  have hstart : P (s, {}) := ⟨rfl, rfl⟩
  exact (within_mirrors hrows hplace m _ _ ⟨⟨rfl, hstart⟩, rfl⟩).state.1.2

theorem conclude_report (j : Journal) (tx : τ) (items : List Item) (s : σ) :
    let o := (conclude store.silenced.observed m tx items).runOn (s, j)
    m.startEvent :: o.events = m.report o.state.2 o.result := by
  obtain ⟨hresult, hstate⟩ := conclude_runOn store.silenced.observed m tx items (s, j)
  dsimp only
  rw [hresult, hstate, events_conclude, OrderStore.observed_commit_runOn]
  cases ((store.silenced.commit tx).runOn s).result with
  | ok u => rfl
  | error e => rfl

theorem abandon_report {j : Journal} (hbegin : j.begin = none) (hcommit : j.commit = none)
    (tx : τ) (e : Error) (s : σ) :
    let o := (abandon store.silenced.observed m tx e).runOn (s, j)
    m.startEvent :: o.events = m.report o.state.2 o.result := by
  obtain ⟨hresult, hstate⟩ := abandon_runOn store.silenced.observed m tx e (s, j)
  have hsilent : ((store.silenced.rollback tx).runOn s).events = [] := rfl
  dsimp only
  rw [hresult, hstate, events_abandon, OrderStore.observed_rollback_runOn, hsilent]
  simp [report, hbegin, hcommit]

theorem complete_report (tx : τ) (s : σ) :
    let o := (complete store.silenced.observed m tx).runOn (s, {})
    m.startEvent :: o.events = m.report o.state.2 o.result := by
  have hjournal := journal_within store.silenced m s tx
  have hsilent : ((within store.silenced.observed m).runOn ((s, {}), tx)).events = [] := by
    rw [OrderStore.observed_silenced, within_silenced, Attempt.runOn_silent]
  rw [complete_runOn]
  rcases hwithin : (within store.silenced.observed m).runOn ((s, {}), tx) with
    ⟨r, ⟨⟨s₁, j⟩, tx₁⟩, es⟩
  rw [hwithin] at hjournal hsilent
  obtain ⟨hbegin, hcommit⟩ := hjournal
  obtain rfl : es = [] := hsilent
  cases r with
  | ok items => exact conclude_report store m j tx₁ items s₁
  | error e => exact abandon_report store m hbegin hcommit tx₁ e s₁

/-- What a move writes itself is settled by its journal and its result. -/
theorem ownEvents_eq_report (s : σ) :
    m.ownEvents store s = m.report (m.journal store s) ((m.perform store).runOn s).result := by
  -- a move on the store, silenced and observed, has all three: events, journal and result
  have hquieter := perform_quieter store.observed m (s, {})
  obtain ⟨hresult, -, -⟩ := perform_mirrors store.observed_mirrors m (s, {}) s rfl
  obtain ⟨-, -, hevents⟩ := perform_mirrors store.silenced.observed_mirrors m (s, {}) s rfl
  rw [ownEvents, journal, ← hevents, ← hresult, ← hquieter.result, ← hquieter.state,
    ← OrderStore.observed_silenced, perform_runOn, OrderStore.observed_begin_runOn]
  have hbegin : (store.silenced.begin m.owner).runOn s =
      ⟨((store.begin m.owner).runOn s).result, ((store.begin m.owner).runOn s).state, []⟩ := rfl
  rw [hbegin]
  cases ((store.begin m.owner).runOn s).result with
  | ok tx => exact complete_report store m tx _
  | error e => rfl

section

variable {m} {j : Journal} {r : Except Error (List Item)}

/-- A report tells of trouble with the owner if and only if it is about a failure and no commit
failed. -/
theorem exists_trouble_mem_report_iff :
    (∃ ev ∈ m.report j r, ev.level.isTrouble = true ∧ ev.isAbout m.owner = true) ↔
      (∃ e, r = .error e) ∧ j.commit = none := by
  have hstart : m.startEvent.level.isTrouble = false := rfl
  have hcommitted : ∀ items, (m.committedEvent items).level.isTrouble = false := fun _ => rfl
  cases r with
  | ok items => simp [report, hstart, hcommitted]
  | error e =>
    cases hcommit : j.commit with
    | some e' => simp [report, hcommit, hstart]
    | none =>
      refine iff_of_true ?_ ⟨⟨e, rfl⟩, rfl⟩
      cases hbegin : j.begin with
      | some e' =>
        refine ⟨m.refusedEvent e, by simp [report, hcommit, hbegin], rfl, ?_⟩
        simp [refusedEvent, Event.isAbout]
      | none =>
        refine ⟨m.rolledBackEvent e, by simp [report, hcommit, hbegin], rfl, ?_⟩
        simp [rolledBackEvent, Event.isAbout]

theorem isTrouble_of_mem_report_ok {items : List Item} {ev : Event}
    (h : ev ∈ m.report j (.ok items)) : ev.level.isTrouble = false := by
  simp only [report, List.mem_cons, List.not_mem_nil, or_false] at h
  rcases h with rfl | rfl <;> rfl

/-- Only the report of a move that succeeded says that it has been committed. -/
theorem exists_committed_mem_report_iff :
    (∃ ev ∈ m.report j r, ev.level = .info ∧ ev.message = "Reorder committed") ↔
      ∃ items, r = .ok items := by
  cases r with
  | ok items => simp [report, committedEvent]
  | error e =>
    have hstart : m.startEvent.message = "Reordering" := rfl
    have hrefused : (m.refusedEvent e).level = .error := rfl
    have hrolledBack : (m.rolledBackEvent e).level = .warn := rfl
    have hfailed : ∀ e', (m.rollbackFailedEvent e').level = .error := fun _ => rfl
    simp only [report]
    split_ifs <;> simp [hstart, hrefused, hrolledBack, hfailed]

end

/-- **Which failures a move reports.**  Whatever its store does and whichever calls fail, a move
writes a warning or an error about its owner if and only if it fails otherwise than by its
commit; a move that succeeds writes neither, and it is the only one to say that it has been
committed.  Everything that a move writes itself is among what is written while it is made. -/
theorem trouble_reported_iff (store : OrderStore σ τ) (m : Move) (s : σ) :
    let o := (m.perform store).runOn s
    let own := m.ownEvents store s
    own.Sublist o.events ∧
      ((∃ ev ∈ own, ev.level.isTrouble = true ∧ ev.isAbout m.owner = true) ↔
        (∃ e, o.result = .error e) ∧ (m.journal store s).commit = none) ∧
      (∀ items, o.result = .ok items → ∀ ev ∈ own, ev.level.isTrouble = false) ∧
      ((∃ ev ∈ own, ev.level = .info ∧ ev.message = "Reorder committed") ↔
        ∃ items, o.result = .ok items) := by
  intro o own
  have hown : own = m.report (m.journal store s) o.result := m.ownEvents_eq_report store s
  refine ⟨(perform_quieter store m s).events, ?_⟩
  rw [hown]
  refine ⟨exists_trouble_mem_report_iff, fun items hok ev hev => ?_,
    exists_committed_mem_report_iff⟩
  rw [hok] at hev
  exact isTrouble_of_mem_report_ok hev

/-- Three rows on a store whose fourth placement fails, and the rollback too: a warning tells of
the placement and an error of the rollback. -/
theorem trouble_reported_iff_fourth_placement :
    let s : FaultyStore := {
      rows := [⟨7, ⟨3⟩, "ann", "c", 3⟩, ⟨5, ⟨1⟩, "ann", "a", 1⟩, ⟨6, ⟨2⟩, "ann", "b", 2⟩]
      script := { rollback := true, place := fun n => n == 4 } }
    let m : Move := ⟨.status, "ann", 3, 1⟩
    let own := m.ownEvents FaultyStore.interface s
    (∃ ev ∈ own, ev.level.isTrouble = true ∧ ev.isAbout "ann" = true) ∧
      own.map Event.level = [.info, .warn, .error] := by
  intro s m own
  have hresult : ((m.perform FaultyStore.interface).runOn s).result =
      .error (FaultyStore.injected "update 4") := by decide +kernel
  have hcommit : (m.journal FaultyStore.interface s).commit = none := by decide +kernel
  obtain ⟨-, htrouble, -⟩ := trouble_reported_iff FaultyStore.interface m s
  exact ⟨htrouble.2 ⟨⟨_, hresult⟩, hcommit⟩, by decide +kernel⟩

/-- Two rows on a store whose commit fails: the move fails, and neither it nor the store writes a
warning or an error. -/
theorem commit_failure_unreported :
    let s : FaultyStore := {
      rows := [⟨1, ⟨1⟩, "alice", "", 1⟩, ⟨2, ⟨2⟩, "alice", "", 2⟩]
      script := { commit := true } }
    let o := ((⟨.priority, "alice", 1, 2⟩ : Move).perform FaultyStore.interface).runOn s
    o.result = .error (FaultyStore.injected "commit") ∧
      ∀ ev ∈ o.events, ev.level.isTrouble = false := by
  decide +kernel

end Move
end Turnstile
