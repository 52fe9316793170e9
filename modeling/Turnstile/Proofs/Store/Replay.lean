/-
# Doing it once more, alone

What was done under a ticket can be done once more, with its task beginning on some rows and
nothing happening in between.  A ticket stands on rows if all that was done under it so far
is then answered as it was, and comes to the same point.

A task that waits stands on any rows.  An open transaction stands on all rows that agree
with the present ones on those of its owner: nobody else changes these while the transaction
is open, for it is inside.
-/
import Turnstile.Proofs.Store.Acquisition
import Turnstile.Proofs.Store.Calls

namespace Turnstile

namespace Record

/-- What was done under a ticket, done once more with nothing in between on rows as given. -/
def alone (h : Record) (ticket : Nat) (r : Rows) : Outcome Machine (List Response) :=
  (Machine.steps ((h.task? ticket).toList.map Step.arrive ++ (h.deeds ticket).map Prod.fst)).run
    { rows := r, nextTicket := ticket }

/-- All that was done under a ticket is answered as it was when it is done once more. -/
def Echoes (h : Record) (ticket : Nat) (r : Rows) : Prop :=
  (h.alone ticket r).result = .arrived ticket :: (h.deeds ticket).map Prod.snd

variable {h h' : Record} {ticket : Nat} {r : Rows}

theorem alone_congr (htask : h'.task? ticket = h.task? ticket)
    (hdeeds : h'.deeds ticket = h.deeds ticket) : h'.alone ticket r = h.alone ticket r := by
  rw [alone, htask, hdeeds]
  rfl

theorem echoes_congr (htask : h'.task? ticket = h.task? ticket)
    (hdeeds : h'.deeds ticket = h.deeds ticket) : h'.Echoes ticket r ↔ h.Echoes ticket r := by
  rw [Echoes, alone_congr htask hdeeds, hdeeds]
  rfl

/-- One deed more is one step more. -/
theorem alone_of_deed {st : Step} {response : Response} (htask : h'.task? ticket = h.task? ticket)
    (hdeeds : h'.deeds ticket = h.deeds ticket ++ [(st, response)]) :
    let a := (h.alone ticket r).state
    (h'.alone ticket r).result =
        (h.alone ticket r).result ++ [((Machine.step st).run a).result] ∧
      (h'.alone ticket r).state = ((Machine.step st).run a).state := by
  have hsteps : (h'.task? ticket).toList.map Step.arrive ++ (h'.deeds ticket).map Prod.fst =
      (h.task? ticket).toList.map Step.arrive ++ (h.deeds ticket).map Prod.fst ++ [st] := by
    rw [htask, hdeeds, List.map_append, List.append_assoc]
    rfl
  have happend := Machine.steps_append ((h.task? ticket).toList.map Step.arrive ++
    (h.deeds ticket).map Prod.fst) [st] { rows := r, nextTicket := ticket }
  rw [← hsteps] at happend
  exact happend

/-- A task that has only begun has the lock when it is alone. -/
theorem alone_of_waiting {task : Task} (htask : h.task? ticket = some task)
    (hdeeds : h.deeds ticket = []) (hrefusal : task.refusal? = none) (r : Rows) :
    let o := h.alone ticket r
    o.result = [.arrived ticket] ∧ o.state.rows = r ∧
      o.state.waiting.get? ticket = some task ∧ o.state.opened.get? ticket = none ∧
      o.state.locks.holds ticket = true := by
  intro o
  have halone : o = (Machine.steps [.arrive task]).run { rows := r, nextTicket := ticket } := by
    change h.alone ticket r = _
    rw [alone, htask, hdeeds]
    rfl
  obtain ⟨hresult, hstate⟩ := (Machine.Taken.arrived (m := { rows := r, nextTicket := ticket })
    task hrefusal).run
  have hresult' : o.result = [.arrived ticket] := halone ▸ congrArg (fun x => [x]) hresult
  have hstate' : o.state = _ := (congrArg Outcome.state halone).trans hstate
  rw [hstate']
  exact ⟨hresult', rfl, Register.get?_insert_self _ _ _, rfl,
    OwnerLocks.holds_claim_empty ticket task.owner⟩

end Record

namespace Machine

variable {h : Record} {m m' : Machine} {st : Step} {response : Response} {ticket : Nat} {r : Rows}

/-- A ticket has come to the same point when what was done under it is done once more. -/
structure Stands (h : Record) (m : Machine) (ticket : Nat) (r : Rows) : Prop where
  echoes : h.Echoes ticket r
  rows : (h.alone ticket r).state.rows = r
  waiting : (h.alone ticket r).state.waiting.get? ticket = m.waiting.get? ticket
  opened : (h.alone ticket r).state.opened.get? ticket = m.opened.get? ticket
  holds : (h.alone ticket r).state.locks.holds ticket = true

theorem Recorded.stands_of_waiting (hrec : Recorded h m) {task : Task}
    (hwaiting : m.waiting.get? ticket = some task) (r : Rows) : Stands h m ticket r := by
  obtain ⟨htask, hdeeds, hrefusal⟩ := (hwaiting ▸ hrec.life ticket).of_waiting
  obtain ⟨hresult, hrows, hwaiting', hopened, hholds⟩ :=
    Record.alone_of_waiting htask hdeeds hrefusal r
  refine ⟨?_, hrows, hwaiting'.trans hwaiting.symm, ?_, hholds⟩
  · rw [Record.Echoes, hresult, hdeeds]
    rfl
  · rw [hopened, hrec.guarded.opened_of_waiting hwaiting]

/-- What happens to others changes nothing about where a ticket stands. -/
theorem Stands.other (hstands : Stands h m ticket r) (hm : m.Taken st response m')
    (hnew : response ≠ .arrived ticket)
    (hdeed : ¬(st.ticket? = some ticket ∧ response.isPossible = true)) :
    Stands (h ++ [(st, response)]) m' ticket r := by
  obtain ⟨htask, hdeeds⟩ := Record.snoc_of_other (h := h) (Record.begins?_eq_none hnew) hdeed
  obtain ⟨hwaiting, hopened⟩ := hm.other hnew hdeed
  have halone := Record.alone_congr (r := r) htask hdeeds
  refine ⟨(Record.echoes_congr htask hdeeds).2 hstands.echoes, ?_, ?_, ?_, ?_⟩
  · rw [halone, hstands.rows]
  · rw [halone, hstands.waiting, hwaiting]
  · rw [halone, hstands.opened, hopened]
  · rw [halone, hstands.holds]

/-- Where a ticket stands after a deed that is done once more and answered the same. -/
theorem Stands.echoes_deed (hstands : Stands h m ticket r) (hticket : st.ticket? = some ticket)
    (hpossible : response.isPossible = true) {a' : Machine}
    (hsame : (h.alone ticket r).state.Taken st response a') :
    Record.Echoes (h ++ [(st, response)]) ticket r ∧
      (Record.alone (h ++ [(st, response)]) ticket r).state = a' := by
  obtain ⟨htask, hdeeds⟩ := Record.snoc_of_deed (h := h) (e := (st, response)) hticket hpossible
  obtain ⟨hresult, hstate⟩ := Record.alone_of_deed (r := r) htask hdeeds
  obtain ⟨hrunResult, hrunState⟩ := hsame.run
  refine ⟨?_, hstate.trans hrunState⟩
  rw [Record.Echoes, hresult, hrunResult, hstands.echoes, hdeeds, List.map_append]
  rfl

/-- A transaction is opened on the same rows as long as those of its owner are the same. -/
theorem Stands.begun (hstands : Stands h m ticket r) {owner : String}
    (hwaiting : m.waiting.get? ticket = some (.begin owner)) (hr : r.of owner = m.rows.of owner) :
    Stands (h ++ [(.enter ticket, .ended (.ok (.opened (m.rows.snapshot owner))))])
      (m.keep ticket (m.rows.snapshot owner)) ticket r := by
  have hsnapshot : (h.alone ticket r).state.rows.snapshot owner = m.rows.snapshot owner := by
    rw [hstands.rows, Rows.snapshot, hr]
    rfl
  have hsame := Taken.begun ticket owner (hstands.waiting.trans hwaiting) hstands.holds
  rw [hsnapshot] at hsame
  obtain ⟨hechoes, hstate⟩ := hstands.echoes_deed rfl rfl hsame
  refine ⟨hechoes, ?_, ?_, ?_, ?_⟩
  · rw [hstate]
    exact hstands.rows
  · rw [hstate, keep, keep, Register.get?_erase, Register.get?_erase, if_pos rfl, if_pos rfl]
  · rw [hstate, keep, keep, Register.get?_insert_self, Register.get?_insert_self]
  · rw [hstate]
    exact hstands.holds

theorem Stands.txListed (hstands : Stands h m ticket r) {tx : Transaction}
    (hopen : m.opened.get? ticket = some tx) (owner : String) :
    Stands (h ++ [(.txList ticket owner, .listed (tx.list owner))]) m ticket r := by
  have hsame := Taken.txListed ticket tx (hstands.opened.trans hopen) owner
  obtain ⟨hechoes, hstate⟩ := hstands.echoes_deed rfl rfl hsame
  exact ⟨hechoes, hstate ▸ hstands.rows, hstate ▸ hstands.waiting, hstate ▸ hstands.opened,
    hstate ▸ hstands.holds⟩

theorem Stands.placed (hstands : Stands h m ticket r) {tx : Transaction}
    (hopen : m.opened.get? ticket = some tx) (id : Int) (owner : String) (order : Int) :
    Stands (h ++ [(.txPlace ticket id owner order, .settled (tx.place id owner order).1)])
      { m with opened := m.opened.insert ticket (tx.place id owner order).2 } ticket r := by
  have hsame := Taken.placed ticket tx (hstands.opened.trans hopen) id owner order
  obtain ⟨hechoes, hstate⟩ := hstands.echoes_deed rfl rfl hsame
  refine ⟨hechoes, ?_, ?_, ?_, ?_⟩
  · rw [hstate]
    exact hstands.rows
  · rw [hstate]
    exact hstands.waiting
  · rw [hstate, Register.get?_insert_self, Register.get?_insert_self]
  · rw [hstate]
    exact hstands.holds

/-- A step after which a ticket is done comes to the same if it is done on the present rows. -/
theorem Stands.finish (hstands : Stands h m ticket m.rows) (hm : m.Taken st response m')
    (hdone : Record.completes? (st, response) = some ticket) :
    Record.Echoes (h ++ [(st, response)]) ticket m.rows ∧
      (Record.alone (h ++ [(st, response)]) ticket m.rows).state.rows = m'.rows := by
  obtain ⟨hticket, hpossible⟩ := Record.isDeed_of_completes? hdone
  cases hm with
  | impossible _ _ => cases hpossible
  | refused _ _ _ | arrived _ _ | listed _ => cases hticket
  | begun _ _ _ _ | gaveUp _ _ _ _ | txListed _ _ _ _ | placed _ _ _ _ _ _ => cases hdone
  | worked t task hwaiting _ hopens =>
    obtain rfl : t = ticket := Option.some.inj hticket
    have hsame := Taken.worked t task (hstands.waiting.trans hwaiting) hstands.holds hopens
    rw [hstands.rows] at hsame
    obtain ⟨hechoes, hstate⟩ := hstands.echoes_deed rfl rfl hsame
    exact ⟨hechoes, hstate ▸ rfl⟩
  | committed t tx hopen =>
    obtain rfl : t = ticket := Option.some.inj hticket
    have hsame := Taken.committed t tx (hstands.opened.trans hopen)
    rw [hstands.rows] at hsame
    obtain ⟨hechoes, hstate⟩ := hstands.echoes_deed rfl rfl hsame
    exact ⟨hechoes, hstate ▸ rfl⟩
  | discarded t tx hopen st hst =>
    obtain rfl : t = ticket := by rcases hst with rfl | rfl <;> exact Option.some.inj hticket
    have hsame := Taken.discarded t tx (hstands.opened.trans hopen) st hst
    obtain ⟨hechoes, hstate⟩ := hstands.echoes_deed hticket rfl hsame
    exact ⟨hechoes, hstate ▸ hstands.rows⟩

/-! ## What a ticket does when it is alone -/

/-- Only those wait who waited before or who arrive. -/
theorem Taken.waiting_sub (hm : m.Taken st response m') {ticket : Nat} {task : Task}
    (hwaiting : m'.waiting.get? ticket = some task) :
    m.waiting.get? ticket = some task ∨ st = .arrive task := by
  cases hm with
  | impossible _ _ | refused _ _ _ | listed _ | txListed _ _ _ _ | placed _ _ _ _ _ _
  | committed _ _ _ | discarded _ _ _ _ _ => exact .inl hwaiting
  | arrived task' _ =>
    rw [Register.get?_insert] at hwaiting
    split at hwaiting
    · exact .inr (congrArg Step.arrive (Option.some.inj hwaiting))
    · exact .inl hwaiting
  | worked _ _ _ _ _ | gaveUp _ _ _ _ | begun _ _ _ _ =>
    exact .inl (Register.get?_of_erase hwaiting)

/-- A lock is used only by those who used it before or who arrive. -/
theorem Taken.uses_sub (hm : m.Taken st response m') {ticket : Nat} {owner : String}
    (huses : m'.Uses ticket owner) :
    m.Uses ticket owner ∨ ∃ task, st = .arrive task ∧ task.owner = owner := by
  rcases huses with ⟨task, hwaiting, howner⟩ | ⟨tx, hopen, howner⟩
  · obtain h | hst := hm.waiting_sub hwaiting
    · exact .inl (.inl ⟨task, h, howner⟩)
    · exact .inr ⟨task, hst, howner⟩
  · refine .inl ?_
    cases hm with
    | impossible _ _ | refused _ _ _ | listed _ | txListed _ _ _ _ | arrived _ _
    | worked _ _ _ _ _ | gaveUp _ _ _ _ => exact .inr ⟨tx, hopen, howner⟩
    | begun t owner' hwaiting _ =>
      rw [keep, Register.get?_insert] at hopen
      split at hopen
      · next heq =>
        obtain rfl := Option.some.inj hopen
        exact .inl ⟨.begin owner', heq ▸ hwaiting, howner⟩
      · exact .inr ⟨tx, hopen, howner⟩
    | placed t tx' hopen' id owner' order =>
      rw [Register.get?_insert] at hopen
      split at hopen
      · next heq =>
        obtain rfl := Option.some.inj hopen
        exact .inr ⟨tx', heq ▸ hopen', (tx'.place_owner id owner' order).symm.trans howner⟩
      · exact .inr ⟨tx, hopen, howner⟩
    | committed _ _ _ | discarded _ _ _ _ _ =>
      exact .inr ⟨tx, Register.get?_of_erase hopen, howner⟩

/-- As long as only owners of a kind use their locks and have tasks arrive, the rows of all
other owners stay as they are, and nobody else uses a lock afterwards. -/
theorem steps_apart {P : String → Prop} {ss : List Step} {m : Machine}
    (huses : ∀ ticket owner, m.Uses ticket owner → P owner)
    (hss : ∀ task, Step.arrive task ∈ ss → P task.owner) :
    (∀ ticket owner, ((steps ss).run m).state.Uses ticket owner → P owner) ∧
      ∀ owner, ¬P owner → ((steps ss).run m).state.rows.of owner = m.rows.of owner := by
  let Q : Machine → Prop := fun m' => (∀ ticket owner, m'.Uses ticket owner → P owner) ∧
    ∀ owner, ¬P owner → m'.rows.of owner = m.rows.of owner
  have hkind : ∀ st ∈ ss, ∀ task, st = .arrive task → P task.owner :=
    fun st hst task heq => hss task (heq ▸ hst)
  refine steps_induction_of (Q := Q) (fun {m₁ st response m₂} hkind hQ hm => ?_) hkind
    ⟨huses, fun _ _ => rfl⟩
  obtain ⟨huses, hrows⟩ := hQ
  refine ⟨fun t o huses' => ?_, fun owner hother => ?_⟩
  · obtain h | ⟨task, hst, rfl⟩ := hm.uses_sub huses'
    · exact huses t o h
    · exact hkind task hst
  · rw [← hrows owner hother]
    obtain hsame | ⟨t, task, -, hwaiting, -, -, hwork⟩ | ⟨t, tx, -, hopen, hpublish⟩ :=
      hm.rows_cases
    · rw [hsame]
    · rw [hwork, task.work_true_of]
      rintro rfl
      exact hother (huses t _ (.inl ⟨task, hwaiting, rfl⟩))
    · rw [hpublish, Rows.of_publish, Function.update_of_ne]
      rintro rfl
      exact hother (huses t _ (.inr ⟨tx, hopen, rfl⟩))

/-- Steps of tasks of one owner leave the rows of all others alone. -/
theorem rows_of_others_of_steps {task : Task} {ss : List Step}
    (hss : ∀ st ∈ ss, ∀ task', st = .arrive task' → task'.owner = task.owner) {r : Rows}
    {ticket : Nat} {owner : String} (hother : owner ≠ task.owner) :
    ((steps ss).run { rows := r, nextTicket := ticket }).state.rows.of owner = r.of owner := by
  refine (steps_apart (P := (· = task.owner)) (fun t o huses => ?_)
    (fun task' hst => hss _ hst task' rfl)).2 owner hother
  rcases huses with ⟨_, h, -⟩ | ⟨_, h, -⟩ <;> cases h

/-- Steps of transactions that are not committed leave the rows as they are. -/
theorem rows_of_steps_begin {ss : List Step}
    (hss : ∀ st ∈ ss, (∀ task, st = .arrive task → task.opens = true) ∧ ∀ t, st ≠ .commit t)
    {r : Rows} {ticket : Nat} :
    ((steps ss).run { rows := r, nextTicket := ticket }).state.rows = r := by
  let Q : Machine → Prop := fun m =>
    (∀ t task, m.waiting.get? t = some task → task.opens = true) ∧ m.rows = r
  have hstart : Q { rows := r, nextTicket := ticket } := ⟨nofun, rfl⟩
  refine (steps_induction_of (Q := Q) (fun {m st response m'} hkind hQ hm => ?_) hss hstart).2
  obtain ⟨hwaiting, hrows⟩ := hQ
  refine ⟨fun t task hwaiting' => ?_, ?_⟩
  · obtain h | hst := hm.waiting_sub hwaiting'
    · exact hwaiting t task h
    · exact hkind.1 task hst
  · rw [← hrows]
    obtain hsame | ⟨t, task, -, hwaiting', -, hopens, -⟩ | ⟨t, tx, hst, -, -⟩ := hm.rows_cases
    · exact hsame
    · rw [hwaiting t task hwaiting'] at hopens
      cases hopens
    · exact absurd hst (hkind.2 t)

end Machine

namespace Record

variable {h : Record} {ticket : Nat}

/-- The steps that are taken when a ticket is alone. -/
theorem mem_steps_alone {task : Task} (htask : h.task? ticket = some task) {st : Step}
    (hst : st ∈ (h.task? ticket).toList.map Step.arrive ++ (h.deeds ticket).map Prod.fst) :
    st = .arrive task ∨ st.ticket? = some ticket ∧ ∃ e ∈ h.deeds ticket, e.1 = st := by
  rw [htask] at hst
  rcases List.mem_append.1 hst with hst | hst
  · exact .inl (List.mem_singleton.1 hst)
  · obtain ⟨e, he, rfl⟩ := List.mem_map.1 hst
    exact .inr ⟨(mem_deeds_iff.1 he).2.1, e, he, rfl⟩

/-- What is done under a ticket leaves the rows of all owners but its own alone. -/
theorem alone_rows_of {task : Task} (htask : h.task? ticket = some task) (r : Rows)
    {owner : String} (hother : owner ≠ task.owner) :
    (h.alone ticket r).state.rows.of owner = r.of owner := by
  refine Machine.rows_of_others_of_steps (fun st hst task' heq => ?_) hother
  subst heq
  rcases mem_steps_alone htask hst with heq | ⟨hticket, -⟩
  · rw [Step.arrive.inj heq]
  · cases hticket

/-- A transaction that is not committed leaves the rows as they are. -/
theorem alone_rows_of_discarded {owner : String} (htask : h.task? ticket = some (.begin owner))
    (hdiscarded : ∀ e ∈ h.deeds ticket, e.1 ≠ .commit ticket) (r : Rows) :
    (h.alone ticket r).state.rows = r := by
  refine Machine.rows_of_steps_begin fun st hst => ?_
  rcases mem_steps_alone htask hst with rfl | ⟨hticket, e, he, rfl⟩
  · exact ⟨fun task heq => Step.arrive.inj heq ▸ rfl, nofun⟩
  · refine ⟨fun task heq => ?_, fun t heq => ?_⟩
    · rw [heq] at hticket
      cases hticket
    · rw [heq] at hticket
      exact hdiscarded e he (heq.trans (congrArg Step.commit (Option.some.inj hticket)))

end Record

end Turnstile
