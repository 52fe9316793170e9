/-
# Moves that are made call by call

A move need not be made at once.  Whoever opens a transaction on an owner, makes the calls
that the dialogue of a move asks for, each when the one before has been answered, and then
commits if the move went well and rolls back if it did not, has made the move, although
other tasks may have done anything between the calls.  What becomes of the rows and what the
dialogue comes to are what the move at once would have made of the same rows.
-/
import Turnstile.Proofs.Store.Moves
import Turnstile.Proofs.Store.Replay

namespace Turnstile

/-- What is left of a dialogue after calls under a ticket, if these are what it asked for. -/
def Dialogue.after? (ticket : Nat) : Dialogue → Record → Option Dialogue
  | d, [] => some d
  | list owner next, (st, .listed r) :: es =>
    if st = .txList ticket owner then (next r).after? ticket es else none
  | place id owner order next, (st, .settled r) :: es =>
    if st = .txPlace ticket id owner order then (next r).after? ticket es else none
  | _, _ :: _ => none

/-- The step that closes the transaction of a move with a result. -/
def Move.closing (ticket : Nat) : Except Error (List Item) → Step
  | .ok _ => .commit ticket
  | .error _ => .rollback ticket

theorem Move.ticket?_closing (ticket : Nat) (result : Except Error (List Item)) :
    (closing ticket result).ticket? = some ticket := by
  cases result <;> rfl

/-- What was done under a ticket is a move, made call by call, with a result. -/
def Record.Conducts (h : Record) (ticket : Nat) (mv : Move) (result : Except Error (List Item)) :
    Prop :=
  h.task? ticket = some (.begin mv.owner) ∧ ∃ start calls response,
    h.deeds ticket = (.enter ticket, .ended (.ok (.opened start))) :: calls ++
      [(Move.closing ticket result, response)] ∧
    mv.dialogue.after? ticket calls = some (.ended result)

namespace Machine

variable {m : Machine} {ticket : Nat}

/-- Calls that follow a dialogue hold it with the transaction. -/
theorem run_of_after? {calls : Record} {d d' : Dialogue} {tx : Transaction}
    (hopen : m.opened.get? ticket = some tx) (hafter : d.after? ticket calls = some d')
    (hanswers : ((steps (calls.map Prod.fst)).run m).result = calls.map Prod.snd) :
    ∃ tx', ((steps (calls.map Prod.fst)).run m).state.opened.get? ticket = some tx' ∧
      ((steps (calls.map Prod.fst)).run m).state.rows = m.rows ∧ d.run tx = d'.run tx' := by
  induction calls generalizing m d tx with
  | nil =>
    obtain rfl : d = d' := by
      cases d <;> exact Option.some.inj hafter
    exact ⟨tx, hopen, rfl, rfl⟩
  | cons e es ih =>
    obtain ⟨st, response⟩ := e
    -- the step is the one that was asked for, and its answer the one that was given
    have hanswer : ((step st).run m).result = response := (List.cons.inj hanswers).1
    have hrest := (List.cons.inj hanswers).2
    cases d with
    | ended r => simp only [Dialogue.after?, reduceCtorEq] at hafter
    | list owner next =>
      cases response with
      | listed r =>
        rw [Dialogue.after?] at hafter
        split at hafter
        · next hst =>
          subst hst
          obtain ⟨hresult, hstate⟩ := (Taken.txListed ticket tx hopen owner).run
          have hr : tx.list owner = r := Response.listed.inj (hresult.symm.trans hanswer)
          have hopen' := (congrArg (fun m' => m'.opened.get? ticket) hstate).trans hopen
          obtain ⟨tx', htx', hrows, hrun⟩ := ih hopen' hafter hrest
          refine ⟨tx', htx', hrows.trans (congrArg Machine.rows hstate), ?_⟩
          rw [Dialogue.run, hr]
          exact hrun
        · cases hafter
      | _ => cases hafter
    | place id owner order next =>
      cases response with
      | settled r =>
        rw [Dialogue.after?] at hafter
        split at hafter
        · next hst =>
          subst hst
          obtain ⟨hresult, hstate⟩ := (Taken.placed ticket tx hopen id owner order).run
          have hr : (tx.place id owner order).1 = r :=
            Response.settled.inj (hresult.symm.trans hanswer)
          have hopen' := (congrArg (fun m' => m'.opened.get? ticket) hstate).trans
            (Register.get?_insert_self _ _ _)
          obtain ⟨tx', htx', hrows, hrun⟩ := ih hopen' hafter hrest
          refine ⟨tx', htx', hrows.trans ((congrArg Machine.rows hstate).trans rfl), ?_⟩
          rw [Dialogue.run, hr]
          exact hrun
        · cases hafter
      | _ => cases hafter

theorem orderly_alone (ticket : Nat) (r : Rows) :
    Orderly { rows := r, nextTicket := ticket } :=
  ⟨OwnerLocks.consistent_empty, List.forall_mem_nil _⟩

/-- A task that is alone does its work at once. -/
theorem alone_of_worked {h : Record} {task : Task} {response : Response} {r : Rows}
    (htask : h.task? ticket = some task) (hrefusal : task.refusal? = none)
    (hdeeds : h.deeds ticket = [(.enter ticket, response)]) :
    (h.alone ticket r).state.rows = ((task.work true).runOn r).state := by
  rw [Record.alone, htask, hdeeds]
  exact (arrive_enter (m := { rows := r, nextTicket := ticket })
    (orderly_alone ticket r) task hrefusal (OwnerLocks.isFree_empty _)).2

/-- A move that is made at once by a task that is alone. -/
theorem move_alone (ticket : Nat) (mv : Move) (r : Rows) :
    let o := (steps [.arrive (.move mv), .enter ticket]).run { rows := r, nextTicket := ticket }
    let d := mv.dialogue.run (r.snapshot mv.owner)
    o.result = [.arrived ticket, .ended (d.1.map Reply.items)] ∧
      o.state.rows = r.closed d.2 d.1 := by
  intro o d
  obtain ⟨hresult, hrows⟩ := arrive_enter (m := { rows := r, nextTicket := ticket })
    (orderly_alone ticket r) (.move mv) rfl (OwnerLocks.isFree_empty _)
  obtain ⟨hwork, hstate⟩ := Task.work_move_true_runOn mv r
  refine ⟨hresult.trans ?_, hrows.trans hstate⟩
  rw [hwork]

/-- A task that is alone opens a transaction. -/
theorem begin_alone (ticket : Nat) (owner : String) (r : Rows) :
    let o := (steps [.arrive (.begin owner), .enter ticket]).run { rows := r, nextTicket := ticket }
    o.state.opened.get? ticket = some (r.snapshot owner) ∧ o.state.rows = r := by
  intro o
  have harrived :=
    (Taken.arrived (m := { rows := r, nextTicket := ticket }) (.begin owner) rfl).run.2
  have hholds : (({} : OwnerLocks).claim ticket owner).holds ticket = true :=
    OwnerLocks.holds_claim_empty ticket owner
  have hstate : o.state = ((step (.enter ticket)).run
      ((step (.arrive (.begin owner))).run { rows := r, nextTicket := ticket }).state).state := rfl
  rw [hstate, harrived, (Taken.begun ticket owner (Register.get?_insert_self _ _ _) hholds).run.2]
  exact ⟨Register.get?_insert_self _ _ _, rfl⟩

/-- Closing the transaction of a move publishes it if the move went well. -/
theorem closing_run {tx : Transaction} (hopen : m.opened.get? ticket = some tx)
    (result : Except Error (List Item)) :
    ((step (Move.closing ticket result)).run m).state.rows = m.rows.closed tx result := by
  cases result with
  | ok items => exact congrArg Machine.rows (Taken.committed ticket tx hopen).run.2
  | error e =>
    have hstate := (Taken.discarded ticket tx hopen (.rollback ticket) (.inl rfl)).run.2
    exact (congrArg Machine.rows hstate).trans rfl

theorem closing_isPossible {tx : Transaction} (hopen : m.opened.get? ticket = some tx)
    (result : Except Error (List Item)) :
    ((step (Move.closing ticket result)).run m).result.isPossible = true := by
  cases result with
  | ok items => exact congrArg Response.isPossible (Taken.committed ticket tx hopen).run.1
  | error e =>
    exact congrArg Response.isPossible
      (Taken.discarded ticket tx hopen (.rollback ticket) (.inl rfl)).run.1

/-- A move that is made call by call does what it does at once. -/
theorem alone_of_conducts {h : Record} {mv : Move} {result : Except Error (List Item)} {r : Rows}
    (hconducts : h.Conducts ticket mv result) (hechoes : h.Echoes ticket r) :
    let o := (steps [.arrive (.move mv), .enter ticket]).run { rows := r, nextTicket := ticket }
    o.result = [.arrived ticket, .ended (result.map Reply.items)] ∧
      o.state.rows = (h.alone ticket r).state.rows := by
  intro o
  obtain ⟨hresult, hrows⟩ := move_alone ticket mv r
  obtain ⟨htask, start, calls, response, hdeeds, hafter⟩ := hconducts
  have hsteps : (h.task? ticket).toList.map Step.arrive ++ (h.deeds ticket).map Prod.fst =
      [.arrive (.begin mv.owner), .enter ticket] ++
        (calls.map Prod.fst ++ [Move.closing ticket result]) := by
    rw [htask, hdeeds, List.map_append]
    rfl
  rw [Record.Echoes, Record.alone, hsteps, hdeeds] at hechoes
  rw [Record.alone, hsteps]
  -- the machine once the transaction is open, and once all calls have been made
  obtain ⟨hopen, hbegun⟩ := begin_alone ticket mv.owner r
  obtain ⟨hanswers, hstate⟩ := steps_append [.arrive (.begin mv.owner), .enter ticket]
    (calls.map Prod.fst ++ [Move.closing ticket result]) { rows := r, nextTicket := ticket }
  obtain ⟨hanswers', hstate'⟩ := steps_append (calls.map Prod.fst) [Move.closing ticket result]
    ((steps [.arrive (.begin mv.owner), .enter ticket]).run
      { rows := r, nextTicket := ticket }).state
  rw [hanswers, hanswers', List.map_append] at hechoes
  change _ = [.arrived ticket, .ended (.ok (.opened start))] ++
    (calls.map Prod.snd ++ [response]) at hechoes
  have hcalls : ((steps (calls.map Prod.fst)).run ((steps [.arrive (.begin mv.owner),
      .enter ticket]).run { rows := r, nextTicket := ticket }).state).result =
      calls.map Prod.snd := by
    have hrest := (List.append_inj hechoes rfl).2
    exact (List.append_inj hrest (by rw [length_steps, List.length_map, List.length_map])).1
  obtain ⟨tx, htx, hcallRows, hrun⟩ := run_of_after? hopen hafter hcalls
  have hclosed := (closing_run htx result).trans
    (congrArg (fun r => Rows.closed r tx result) (hcallRows.trans hbegun))
  rw [hrun] at hresult hrows
  refine ⟨hresult, hrows.trans ?_⟩
  rw [hstate, hstate']
  exact hclosed.symm

/-- A dialogue can be held with an open transaction call by call. -/
theorem exists_calls (d : Dialogue) {tx : Transaction} (hopen : m.opened.get? ticket = some tx) :
    ∃ ss, d.after? ticket (record m ss) = some (.ended (d.run tx).1) ∧
      ((steps ss).run m).state.opened.get? ticket = some (d.run tx).2 ∧
      ∀ e ∈ record m ss, e.1.ticket? = some ticket ∧ e.2.isPossible = true := by
  induction d generalizing m tx with
  | ended result => exact ⟨[], rfl, hopen, List.forall_mem_nil _⟩
  | list owner next ih =>
    obtain ⟨hresult, hstate⟩ := (Taken.txListed ticket tx hopen owner).run
    obtain ⟨ss, hafter, hopen', hdeeds⟩ := ih (tx.list owner) (hstate ▸ hopen)
    refine ⟨.txList ticket owner :: ss, ?_, hopen', ?_⟩
    · rw [record_cons, hresult, Dialogue.after?, if_pos rfl]
      exact hafter
    · rw [record_cons, hresult]
      exact List.forall_mem_cons.2 ⟨⟨rfl, rfl⟩, hdeeds⟩
  | place id owner order next ih =>
    obtain ⟨hresult, hstate⟩ := (Taken.placed ticket tx hopen id owner order).run
    have hplaced : ((step (.txPlace ticket id owner order)).run m).state.opened.get? ticket =
        some (tx.place id owner order).2 := hstate ▸ Register.get?_insert_self _ _ _
    obtain ⟨ss, hafter, hopen', hdeeds⟩ := ih (tx.place id owner order).1 hplaced
    refine ⟨.txPlace ticket id owner order :: ss, ?_, hopen', ?_⟩
    · rw [record_cons, hresult, Dialogue.after?, if_pos rfl]
      exact hafter
    · rw [record_cons, hresult]
      exact List.forall_mem_cons.2 ⟨⟨rfl, rfl⟩, hdeeds⟩

/-- Whoever holds the lock of an owner can make any move on its rows call by call, with the
result that the move has if it is made at once. -/
theorem Recorded.exists_conducts {h : Record} (hrec : Recorded h m) (mv : Move)
    (hwaiting : m.waiting.get? ticket = some (.begin mv.owner))
    (hholds : m.locks.holds ticket = true) :
    let result := (mv.dialogue.run (m.rows.snapshot mv.owner)).1
    ∃ ss, Record.Conducts (h ++ record m (.enter ticket :: ss ++ [Move.closing ticket result]))
      ticket mv result := by
  intro result
  obtain ⟨hresult, hstate⟩ := (Taken.begun ticket mv.owner hwaiting hholds).run
  have hopen : ((step (.enter ticket)).run m).state.opened.get? ticket =
      some (m.rows.snapshot mv.owner) := hstate ▸ Register.get?_insert_self _ _ _
  obtain ⟨ss, hafter, hopen', hdeeds⟩ := exists_calls mv.dialogue hopen
  obtain ⟨htask, hnone⟩ : h.task? ticket = some (.begin mv.owner) ∧ h.deeds ticket = [] := by
    have hlife := hrec.life ticket
    rw [hwaiting] at hlife
    exact ⟨hlife.of_waiting.1, hlife.of_waiting.2.1⟩
  -- the transaction is still open when it is closed, so that this is a deed too
  let response := ((step (Move.closing ticket result)).run
    ((steps ss).run ((step (.enter ticket)).run m).state).state).result
  have hpossible : response.isPossible = true := closing_isPossible hopen' result
  have hrecord : record m (.enter ticket :: ss ++ [Move.closing ticket result]) =
      (.enter ticket, .ended (.ok (.opened (m.rows.snapshot mv.owner)))) ::
        record ((step (.enter ticket)).run m).state ss ++
          [(Move.closing ticket result, response)] := by
    rw [record_snoc, record_cons, hresult]
    rfl
  have hall : ∀ e ∈ record m (.enter ticket :: ss ++ [Move.closing ticket result]),
      e.1.ticket? = some ticket ∧ e.2.isPossible = true := by
    intro e he
    rw [hrecord, List.mem_append, List.mem_cons, List.mem_singleton] at he
    rcases he with (rfl | he) | rfl
    · exact ⟨rfl, rfl⟩
    · exact hdeeds e he
    · exact ⟨Move.ticket?_closing ticket result, hpossible⟩
  refine ⟨ss, ?_, m.rows.snapshot mv.owner, record ((step (.enter ticket)).run m).state ss,
    response, ?_, hafter⟩
  · rw [Record.task?_append, htask]
    rfl
  · rw [Record.deeds_append, hnone, List.nil_append, Record.deeds_of_forall hall, hrecord]

end Machine

end Turnstile
