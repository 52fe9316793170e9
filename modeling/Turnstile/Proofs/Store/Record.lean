/-
# The record of a run

What happened on a machine is the list of the steps taken, each with its answer.  From it
one reads which task began under a ticket, what was done under it, and in what order tickets
obtained their locks and were done.

A ticket has a life: its task waits, and then gives up, or does its work, or opens a
transaction, in which calls are made until it is closed.  `Ticket.Life` says what the record
and the machine have of a ticket at every point of its life, and every step that is taken
under a ticket leads its life on and no other one's.
-/
import Turnstile.Proofs.Store.Exclusion

namespace Turnstile

/-- The steps that were taken, each with its answer. -/
abbrev Record := List (Step × Response)

/-- Whether a step was possible, by its answer. -/
def Response.isPossible : Response → Bool
  | .impossible => false
  | _ => true

namespace Record

/-- The task that begins under a ticket with a step, if one does. -/
def begins? (ticket : Nat) : Step × Response → Option Task
  | (.arrive task, .arrived t) => if t = ticket then some task else none
  | _ => none

/-- The ticket that obtains its lock with a step, if one does. -/
def acquires? : Step × Response → Option Nat
  | (.enter ticket, .ended _) => some ticket
  | _ => none

/-- The ticket that is done with a step, if one is: its work is done, or its transaction is
closed. -/
def completes? : Step × Response → Option Nat
  | (.enter _, .ended (.ok (.opened _))) => none
  | (.enter ticket, .ended _) => some ticket
  | (.commit ticket, .settled _) | (.rollback ticket, .settled _)
  | (.drop ticket, .settled _) => some ticket
  | _ => none

/-- The task that began under a ticket. -/
def task? (h : Record) (ticket : Nat) : Option Task := h.findSome? (begins? ticket)

/-- What was done under a ticket. -/
def deeds (h : Record) (ticket : Nat) : Record :=
  h.filter fun e => e.1.ticket? == some ticket && e.2.isPossible

/-- The tickets in the order in which they obtained their locks. -/
def acquired (h : Record) : List Nat := h.filterMap acquires?

/-- The tickets that obtained their locks and are done, in the order in which they were. -/
def completed (h : Record) : List Nat := h.filterMap completes?

/-- The tickets that obtained their locks and are not done. -/
def pending (h : Record) : List Nat := h.acquired.filter fun t => decide (t ∉ h.completed)

/-- Those of some tickets whose tasks need the lock of an owner. -/
def ofOwner (h : Record) (owner : String) (tickets : List Nat) : List Nat :=
  tickets.filter fun t => (h.task? t).map Task.owner == some owner

variable {h : Record} {e : Step × Response} {ticket : Nat}

theorem acquired_snoc (h : Record) (e : Step × Response) :
    acquired (h ++ [e]) = h.acquired ++ (acquires? e).toList := by
  cases he : acquires? e <;> simp [acquired, he]

theorem acquired_snoc_of_none (he : acquires? e = none) : acquired (h ++ [e]) = h.acquired := by
  rw [acquired_snoc, he, Option.toList_none, List.append_nil]

theorem acquired_snoc_of_some (he : acquires? e = some ticket) :
    acquired (h ++ [e]) = h.acquired ++ [ticket] := by
  rw [acquired_snoc, he, Option.toList_some]

theorem completed_snoc (h : Record) (e : Step × Response) :
    completed (h ++ [e]) = h.completed ++ (completes? e).toList := by
  cases he : completes? e <;> simp [completed, he]

theorem completed_snoc_of_none (he : completes? e = none) :
    completed (h ++ [e]) = h.completed := by
  rw [completed_snoc, he, Option.toList_none, List.append_nil]

theorem completed_snoc_of_some (he : completes? e = some ticket) :
    completed (h ++ [e]) = h.completed ++ [ticket] := by
  rw [completed_snoc, he, Option.toList_some]

theorem task?_append (h h' : Record) (ticket : Nat) :
    task? (h ++ h') ticket = (h.task? ticket).or (h'.task? ticket) := List.findSome?_append

theorem task?_snoc (h : Record) (e : Step × Response) (ticket : Nat) :
    task? (h ++ [e]) ticket = (h.task? ticket).or (begins? ticket e) := by
  rw [task?_append]
  exact congrArg (h.task? ticket).or List.findSome?_singleton

theorem deeds_append (h h' : Record) (ticket : Nat) :
    deeds (h ++ h') ticket = h.deeds ticket ++ h'.deeds ticket := List.filter_append ..

theorem deeds_snoc (h : Record) (e : Step × Response) (ticket : Nat) :
    deeds (h ++ [e]) ticket = h.deeds ticket ++
      if e.1.ticket? = some ticket ∧ e.2.isPossible = true then [e] else [] := by
  rw [deeds_append, deeds, deeds, List.filter_singleton]
  simp

theorem mem_deeds_iff : e ∈ h.deeds ticket ↔
    e ∈ h ∧ e.1.ticket? = some ticket ∧ e.2.isPossible = true := by
  rw [deeds, List.mem_filter, Bool.and_eq_true, beq_iff_eq]

/-- If all is done under one ticket, all are its deeds. -/
theorem deeds_of_forall (hall : ∀ e ∈ h, e.1.ticket? = some ticket ∧ e.2.isPossible = true) :
    h.deeds ticket = h :=
  List.filter_eq_self.2 fun e he => by
    rw [(hall e he).1, (hall e he).2, beq_self_eq_true, Bool.and_self]

/-- What obtains or gives up the lock of a ticket is done under it. -/
theorem isDeed_of_acquires? (he : acquires? e = some ticket) :
    e.1.ticket? = some ticket ∧ e.2.isPossible = true := by
  unfold acquires? at he
  split at he <;> cases he
  exact ⟨rfl, rfl⟩

theorem isDeed_of_completes? (he : completes? e = some ticket) :
    e.1.ticket? = some ticket ∧ e.2.isPossible = true := by
  unfold completes? at he
  split at he <;> cases he <;> exact ⟨rfl, rfl⟩

/-- The tickets that are done are those that release their locks and have not given up. -/
theorem completes?_eq_some_iff :
    completes? e = some ticket ↔ e.1.releases? e.2 = some ticket ∧ e.1 ≠ .giveUp ticket := by
  obtain ⟨st, response⟩ := e
  unfold completes? Step.releases?
  constructor
  · intro h
    split at h <;> cases h <;> simp_all
  · rintro ⟨h, hstays⟩
    split at h <;> cases h <;> simp_all

theorem mem_acquired_iff :
    ticket ∈ h.acquired ↔ ∃ e ∈ h.deeds ticket, acquires? e = some ticket := by
  rw [acquired, List.mem_filterMap]
  exact exists_congr fun e =>
    ⟨fun ⟨hmem, he⟩ => ⟨mem_deeds_iff.2 ⟨hmem, isDeed_of_acquires? he⟩, he⟩,
      fun ⟨hmem, he⟩ => ⟨List.mem_of_mem_filter hmem, he⟩⟩

theorem mem_completed_iff :
    ticket ∈ h.completed ↔ ∃ e ∈ h.deeds ticket, completes? e = some ticket := by
  rw [completed, List.mem_filterMap]
  exact exists_congr fun e =>
    ⟨fun ⟨hmem, he⟩ => ⟨mem_deeds_iff.2 ⟨hmem, isDeed_of_completes? he⟩, he⟩,
      fun ⟨hmem, he⟩ => ⟨List.mem_of_mem_filter hmem, he⟩⟩

/-- A step that does not bring a ticket in and is none of its deeds leaves what the record has
of it. -/
theorem snoc_of_other (hbegins : begins? ticket e = none)
    (hdeed : ¬(e.1.ticket? = some ticket ∧ e.2.isPossible = true)) :
    task? (h ++ [e]) ticket = h.task? ticket ∧ deeds (h ++ [e]) ticket = h.deeds ticket := by
  refine ⟨?_, ?_⟩
  · rw [task?_snoc, hbegins, Option.or_none]
  · rw [deeds_snoc, if_neg hdeed, List.append_nil]

theorem begins?_eq_none {st : Step} {response : Response} (h : response ≠ .arrived ticket) :
    begins? ticket (st, response) = none := by
  unfold begins?
  split
  · next heq =>
    refine if_neg fun ht => h ?_
    rw [(Prod.mk.inj heq).2, ht]
  · rfl

/-- A step that is taken under a ticket is one of its deeds. -/
theorem snoc_of_deed (hticket : e.1.ticket? = some ticket) (hpossible : e.2.isPossible = true) :
    task? (h ++ [e]) ticket = h.task? ticket ∧
      deeds (h ++ [e]) ticket = h.deeds ticket ++ [e] := by
  have hbegins : begins? ticket e = none := by
    unfold begins?
    split
    · cases hticket
    · rfl
  refine ⟨?_, ?_⟩
  · rw [task?_snoc, hbegins, Option.or_none]
  · rw [deeds_snoc, if_pos ⟨hticket, hpossible⟩]

/-- A task that ends otherwise than with an open transaction is done. -/
theorem completes?_enter {r : Except Error Reply} (hr : ∀ tx, r ≠ .ok (.opened tx)) :
    completes? (.enter ticket, .ended r) = some ticket :=
  completes?_eq_some_iff.2 ⟨Step.releases?_enter hr, nofun⟩

end Record

/-! ## The life of a ticket -/

/-- Something that is asked of an open transaction and answered. -/
inductive IsCall (ticket : Nat) : Step × Response → Prop where
  | list (owner : String) (r : Except Error (List Item)) :
    IsCall ticket (.txList ticket owner, .listed r)
  | place (id : Int) (owner : String) (order : Int) (r : Except Error Unit) :
    IsCall ticket (.txPlace ticket id owner order, .settled r)

/-- A step that closes a transaction. -/
inductive IsClosing (ticket : Nat) : Step × Response → Prop where
  | commit : IsClosing ticket (.commit ticket, .settled (.ok ()))
  | rollback : IsClosing ticket (.rollback ticket, .settled (.ok ()))
  | drop : IsClosing ticket (.drop ticket, .settled (.ok ()))

/-- What the record has of a ticket, its task and its deeds, and what the machine has of it, a
task that waits and an open transaction, at the points of its life. -/
inductive Life (ticket : Nat) :
    Option Task → Record → Option Task → Option Transaction → Prop where
  | unborn : Life ticket none [] none none
  | waiting (task : Task) (h : task.refusal? = none) : Life ticket (some task) [] (some task) none
  | gaveUp (task : Task) :
    Life ticket (some task)
      [(.giveUp ticket, .ended (.error (.storage (.lockTimeout task.owner))))] none none
  | worked (task : Task) (h : task.refusal? = none) (hopens : task.opens = false)
      (r : Except Error Reply) (hr : ∀ tx, r ≠ .ok (.opened tx)) :
    Life ticket (some task) [(.enter ticket, .ended r)] none none
  | opened (start : Transaction) (calls : Record) (hcalls : ∀ e ∈ calls, IsCall ticket e)
      (tx : Transaction) (howner : tx.owner = start.owner) :
    Life ticket (some (.begin start.owner))
      ((.enter ticket, .ended (.ok (.opened start))) :: calls) none (some tx)
  | closed (start : Transaction) (calls : Record) (hcalls : ∀ e ∈ calls, IsCall ticket e)
      (e : Step × Response) (he : IsClosing ticket e) :
    Life ticket (some (.begin start.owner))
      ((.enter ticket, .ended (.ok (.opened start))) :: calls ++ [e]) none none

namespace Life

variable {ticket : Nat} {task? waiting? : Option Task} {deeds : Record}
  {opened? : Option Transaction}

theorem of_unborn (h : Life ticket none deeds waiting? opened?) :
    deeds = [] ∧ waiting? = none ∧ opened? = none := by
  cases h with
  | unborn => exact ⟨rfl, rfl, rfl⟩

theorem of_waiting {task : Task} (h : Life ticket task? deeds (some task) opened?) :
    task? = some task ∧ deeds = [] ∧ task.refusal? = none := by
  cases h with
  | waiting _ h => exact ⟨rfl, rfl, h⟩

theorem of_opened {tx : Transaction} (h : Life ticket task? deeds waiting? (some tx)) :
    ∃ start calls, (∀ e ∈ calls, IsCall ticket e) ∧ tx.owner = start.owner ∧
      task? = some (.begin start.owner) ∧
      deeds = (.enter ticket, .ended (.ok (.opened start))) :: calls := by
  cases h with
  | opened start calls hcalls _ howner => exact ⟨start, calls, hcalls, howner, rfl, rfl⟩

/-- A ticket that is done has obtained its lock. -/
theorem acquires_of_completes (h : Life ticket task? deeds waiting? opened?)
    (hdone : ∃ e ∈ deeds, Record.completes? e = some ticket) :
    ∃ e ∈ deeds, Record.acquires? e = some ticket := by
  cases h with
  | unborn | waiting _ _ => exact absurd hdone.choose_spec.1 List.not_mem_nil
  | gaveUp _ =>
    obtain ⟨e, he, hcompletes⟩ := hdone
    obtain rfl := List.mem_singleton.1 he
    cases hcompletes
  | worked _ _ _ r _ => exact ⟨_, List.mem_singleton_self _, rfl⟩
  | opened start calls _ _ _ => exact ⟨_, List.mem_cons_self, rfl⟩
  | closed start calls _ e _ => exact ⟨_, List.mem_cons_self, rfl⟩

/-- A ticket that is done has done its work, or has had a transaction open. -/
theorem of_completes (h : Life ticket task? deeds waiting? opened?)
    (hdone : ∃ e ∈ deeds, Record.completes? e = some ticket) :
    (∃ task r, task? = some task ∧ task.refusal? = none ∧ task.opens = false ∧
      deeds = [(.enter ticket, .ended r)]) ∨ ∃ owner, task? = some (.begin owner) := by
  cases h with
  | unborn | waiting _ _ => exact absurd hdone.choose_spec.1 List.not_mem_nil
  | gaveUp _ =>
    obtain ⟨e, he, hcompletes⟩ := hdone
    obtain rfl := List.mem_singleton.1 he
    cases hcompletes
  | worked task hrefusal hopens r _ => exact .inl ⟨task, r, rfl, hrefusal, hopens, rfl⟩
  | opened start _ _ _ _ | closed start _ _ _ _ => exact .inr ⟨start.owner, rfl⟩

/-- The tickets that have obtained their locks and are not done are those with open
transactions. -/
theorem pending_iff (h : Life ticket task? deeds waiting? opened?) :
    ((∃ e ∈ deeds, Record.acquires? e = some ticket) ∧
      ¬∃ e ∈ deeds, Record.completes? e = some ticket) ↔ ∃ tx, opened? = some tx := by
  cases h with
  | unborn | waiting _ _ => simp
  | gaveUp _ => simp [Record.acquires?]
  | worked _ _ _ r hr =>
    simp [Record.completes?_enter hr]
  | opened start calls hcalls tx _ =>
    refine ⟨fun _ => ⟨tx, rfl⟩, fun _ => ⟨⟨_, List.mem_cons_self, rfl⟩, ?_⟩⟩
    rintro ⟨e, he, hcompletes⟩
    rcases List.mem_cons.1 he with rfl | he
    · cases hcompletes
    · cases hcalls e he <;> cases hcompletes
  | closed start calls _ e he =>
    have hcompletes : Record.completes? e = some ticket := by cases he <;> rfl
    refine ⟨fun hpending => absurd ⟨e, ?_, hcompletes⟩ hpending.2, fun ⟨_, hnone⟩ => nomatch hnone⟩
    exact List.mem_append_right _ (List.mem_singleton_self e)

/-- A ticket that has obtained its lock has a task. -/
theorem isSome_of_deed (h : Life ticket task? deeds waiting? opened?) {e : Step × Response}
    (he : e ∈ deeds) : task?.isSome = true := by
  cases h with
  | unborn => exact absurd he List.not_mem_nil
  | _ => rfl

end Life

namespace Machine

/-- The record has the life of every ticket up to now, and nothing of tickets to come. -/
structure Recorded (h : Record) (m : Machine) : Prop where
  guarded : m.Guarded
  life : ∀ ticket, Life ticket (h.task? ticket) (h.deeds ticket) (m.waiting.get? ticket)
    (m.opened.get? ticket)
  unborn : ∀ ticket, m.nextTicket ≤ ticket → h.task? ticket = none

variable {h : Record} {m m' : Machine} {st : Step} {response : Response}

/-- A step that does not bring a ticket in and is none of its deeds leaves what the machine has
of it. -/
theorem Taken.other (hm : m.Taken st response m') {ticket : Nat} (hnew : response ≠ .arrived ticket)
    (hdeed : ¬(st.ticket? = some ticket ∧ response.isPossible = true)) :
    m'.waiting.get? ticket = m.waiting.get? ticket ∧
      m'.opened.get? ticket = m.opened.get? ticket := by
  cases hm with
  | impossible _ _ | refused _ _ _ | listed _ | txListed _ _ _ _ => exact ⟨rfl, rfl⟩
  | arrived task _ =>
    rw [Register.get?_insert, if_neg fun heq => hnew (congrArg Response.arrived heq)]
    exact ⟨rfl, rfl⟩
  | worked t _ _ _ _ | gaveUp t _ _ _ =>
    have hne : t ≠ ticket := fun heq => hdeed ⟨congrArg some heq, rfl⟩
    rw [leave, Register.get?_erase, if_neg hne]
    exact ⟨rfl, rfl⟩
  | begun t owner _ _ =>
    have hne : t ≠ ticket := fun heq => hdeed ⟨congrArg some heq, rfl⟩
    rw [keep, Register.get?_erase, Register.get?_insert, if_neg hne, if_neg hne]
    exact ⟨rfl, rfl⟩
  | placed t tx _ id owner order =>
    have hne : t ≠ ticket := fun heq => hdeed ⟨congrArg some heq, rfl⟩
    rw [Register.get?_insert, if_neg hne]
    exact ⟨rfl, rfl⟩
  | committed t tx _ =>
    have hne : t ≠ ticket := fun heq => hdeed ⟨congrArg some heq, rfl⟩
    rw [close, Register.get?_erase, if_neg hne]
    exact ⟨rfl, rfl⟩
  | discarded t tx _ st hst =>
    have hticket : st.ticket? = some t := by rcases hst with rfl | rfl <;> rfl
    have hne : t ≠ ticket := fun heq => hdeed ⟨hticket.trans (congrArg some heq), rfl⟩
    rw [close, Register.get?_erase, if_neg hne]
    exact ⟨rfl, rfl⟩

namespace Recorded

theorem unborn_nextTicket (hrec : Recorded h m) :
    h.deeds m.nextTicket = [] ∧ h.task? m.nextTicket = none := by
  have hnone := hrec.unborn m.nextTicket (le_refl _)
  have hlife := hrec.life m.nextTicket
  rw [hnone] at hlife
  exact ⟨hlife.of_unborn.1, hnone⟩

/-- A task that begins has its ticket wait. -/
theorem life_arrive (hrec : Recorded h m) (task : Task) (hrefusal : task.refusal? = none) :
    Life m.nextTicket
      (Record.task? (h ++ [(.arrive task, .arrived m.nextTicket)]) m.nextTicket)
      (Record.deeds (h ++ [(.arrive task, .arrived m.nextTicket)]) m.nextTicket)
      (some task) (m.opened.get? m.nextTicket) := by
  obtain ⟨hdeeds, htask⟩ := hrec.unborn_nextTicket
  have hbegins : Record.begins? m.nextTicket (.arrive task, .arrived m.nextTicket) = some task :=
    if_pos rfl
  have hnodeed : ¬(Step.ticket? (.arrive task) = some m.nextTicket ∧
      (Response.arrived m.nextTicket).isPossible = true) := fun hdeed => nomatch hdeed.1
  rw [Record.task?_snoc, htask, hbegins, Record.deeds_snoc, hdeeds, if_neg hnodeed,
    hrec.guarded.opened_nextTicket]
  exact .waiting task hrefusal

/-- What is done under a ticket leads its life on. -/
theorem life_deed (hrec : Recorded h m) (hm : m.Taken st response m') {ticket : Nat}
    (hticket : st.ticket? = some ticket) (hpossible : response.isPossible = true) :
    Life ticket (h.task? ticket) (h.deeds ticket ++ [(st, response)]) (m'.waiting.get? ticket)
      (m'.opened.get? ticket) := by
  have hlife := hrec.life ticket
  cases hm with
  | impossible _ _ => cases hpossible
  | refused _ _ _ | arrived _ _ | listed _ => cases hticket
  | worked t task hwaiting _ hopens =>
    obtain rfl : t = ticket := Option.some.inj hticket
    rw [hwaiting] at hlife
    obtain ⟨htask, hdeeds, hrefusal⟩ := hlife.of_waiting
    rw [leave, Register.get?_erase, if_pos rfl, htask, hdeeds,
      hrec.guarded.opened_of_waiting hwaiting]
    exact .worked task hrefusal hopens _ (Task.work_ne_opened hopens true m.rows)
  | begun t owner hwaiting _ =>
    obtain rfl : t = ticket := Option.some.inj hticket
    rw [hwaiting] at hlife
    obtain ⟨htask, hdeeds, -⟩ := hlife.of_waiting
    rw [keep, Register.get?_erase, Register.get?_insert, if_pos rfl, if_pos rfl, htask, hdeeds]
    exact .opened (m.rows.snapshot owner) [] (List.forall_mem_nil _) (m.rows.snapshot owner) rfl
  | gaveUp t task hwaiting _ =>
    obtain rfl : t = ticket := Option.some.inj hticket
    rw [hwaiting] at hlife
    obtain ⟨htask, hdeeds, -⟩ := hlife.of_waiting
    rw [leave, Register.get?_erase, if_pos rfl, htask, hdeeds,
      hrec.guarded.opened_of_waiting hwaiting]
    exact .gaveUp task
  | txListed t tx hopen owner =>
    obtain rfl : t = ticket := Option.some.inj hticket
    rw [hopen] at hlife
    obtain ⟨start, calls, hcalls, howner, htask, hdeeds⟩ := hlife.of_opened
    rw [hopen, hrec.guarded.waiting_of_opened hopen, htask, hdeeds, List.cons_append]
    refine .opened start _ (List.forall_mem_append.2 ⟨hcalls, ?_⟩) tx howner
    exact List.forall_mem_singleton.2 (.list owner _)
  | placed t tx hopen id owner order =>
    obtain rfl : t = ticket := Option.some.inj hticket
    rw [hopen] at hlife
    obtain ⟨start, calls, hcalls, howner, htask, hdeeds⟩ := hlife.of_opened
    rw [Register.get?_insert, if_pos rfl, hrec.guarded.waiting_of_opened hopen, htask, hdeeds,
      List.cons_append]
    refine .opened start _ (List.forall_mem_append.2 ⟨hcalls, ?_⟩) _
      ((tx.place_owner id owner order).trans howner)
    exact List.forall_mem_singleton.2 (.place id owner order _)
  | committed t tx hopen =>
    obtain rfl : t = ticket := Option.some.inj hticket
    rw [hopen] at hlife
    obtain ⟨start, calls, hcalls, -, htask, hdeeds⟩ := hlife.of_opened
    rw [close, Register.get?_erase, if_pos rfl, hrec.guarded.waiting_of_opened hopen, htask, hdeeds]
    exact .closed start calls hcalls _ .commit
  | discarded t tx hopen st hst =>
    obtain rfl : t = ticket := by rcases hst with rfl | rfl <;> exact Option.some.inj hticket
    rw [hopen] at hlife
    obtain ⟨start, calls, hcalls, -, htask, hdeeds⟩ := hlife.of_opened
    rw [close, Register.get?_erase, if_pos rfl, hrec.guarded.waiting_of_opened hopen, htask, hdeeds]
    refine .closed start calls hcalls _ ?_
    rcases hst with rfl | rfl
    · exact .rollback
    · exact .drop

theorem taken (hrec : Recorded h m) (hm : m.Taken st response m') :
    Recorded (h ++ [(st, response)]) m' := by
  obtain ⟨hle, hnext⟩ := hm.nextTicket_le
  refine ⟨hrec.guarded.taken hm, fun ticket => ?_, fun ticket hticket => ?_⟩
  · by_cases hnew : response = .arrived ticket
    · obtain ⟨rfl, -⟩ := hnext ticket hnew
      cases hm with
      | arrived task hrefusal =>
        rw [Register.get?_insert_self]
        exact hrec.life_arrive task hrefusal
      | _ => cases hnew
    by_cases hdeed : st.ticket? = some ticket ∧ response.isPossible = true
    · obtain ⟨htask, hdeeds⟩ := Record.snoc_of_deed (h := h) (e := (st, response)) hdeed.1 hdeed.2
      rw [htask, hdeeds]
      exact hrec.life_deed hm hdeed.1 hdeed.2
    · obtain ⟨htask, hdeeds⟩ := Record.snoc_of_other (h := h) (Record.begins?_eq_none hnew) hdeed
      obtain ⟨hwaiting, hopened⟩ := hm.other hnew hdeed
      rw [htask, hdeeds, hwaiting, hopened]
      exact hrec.life ticket
  · have hnew : response ≠ .arrived ticket := fun heq =>
      absurd (hnext ticket heq).2 (not_lt.2 hticket)
    rw [Record.task?_snoc, Record.begins?_eq_none hnew, hrec.unborn ticket (hle.trans hticket)]
    rfl

/-- A ticket has obtained its lock and is not done if its transaction is open. -/
theorem mem_pending_iff (hrec : Recorded h m) {ticket : Nat} :
    ticket ∈ h.pending ↔ ∃ tx, m.opened.get? ticket = some tx := by
  rw [Record.pending, List.mem_filter, decide_eq_true_iff, Record.mem_acquired_iff,
    Record.mem_completed_iff]
  exact (hrec.life ticket).pending_iff

theorem mem_acquired_of_completed (hrec : Recorded h m) {ticket : Nat}
    (hdone : ticket ∈ h.completed) : ticket ∈ h.acquired := by
  rw [Record.mem_completed_iff] at hdone
  exact Record.mem_acquired_iff.2 ((hrec.life ticket).acquires_of_completes hdone)

theorem not_mem_acquired_of_waiting (hrec : Recorded h m) {ticket : Nat} {task : Task}
    (hwaiting : m.waiting.get? ticket = some task) : ticket ∉ h.acquired := by
  have hlife := hrec.life ticket
  rw [hwaiting] at hlife
  rw [Record.mem_acquired_iff, hlife.of_waiting.2.1]
  exact fun ⟨e, he, _⟩ => List.not_mem_nil he

theorem isSome_task?_of_acquired (hrec : Recorded h m) {ticket : Nat}
    (hacquired : ticket ∈ h.acquired) : (h.task? ticket).isSome = true := by
  obtain ⟨e, he, -⟩ := Record.mem_acquired_iff.1 hacquired
  exact (hrec.life ticket).isSome_of_deed he

/-- A ticket that uses the lock of an owner has a task that needs it. -/
theorem owner_of_uses (hrec : Recorded h m) {ticket : Nat} {owner : String}
    (huses : m.Uses ticket owner) : (h.task? ticket).map Task.owner = some owner := by
  have hlife := hrec.life ticket
  rcases huses with ⟨task, hwaiting, rfl⟩ | ⟨tx, hopen, rfl⟩
  · rw [hwaiting] at hlife
    rw [hlife.of_waiting.1]
    rfl
  · rw [hopen] at hlife
    obtain ⟨start, -, -, howner, htask, -⟩ := hlife.of_opened
    rw [htask, howner]
    rfl

end Recorded

/-! ## Records of runs -/

/-- The record of steps that are taken from a machine on. -/
def record (m : Machine) (ss : List Step) : Record := ss.zip ((steps ss).run m).result

theorem record_append (m : Machine) (ss ss' : List Step) :
    record m (ss ++ ss') = record m ss ++ record ((steps ss).run m).state ss' := by
  rw [record, (steps_append ss ss' m).1, List.zip_append (length_steps ss m).symm]
  rfl

theorem record_cons (m : Machine) (st : Step) (ss : List Step) :
    record m (st :: ss) =
      (st, ((step st).run m).result) :: record ((step st).run m).state ss := rfl

theorem record_snoc (m : Machine) (ss : List Step) (st : Step) :
    record m (ss ++ [st]) =
      record m ss ++ [(st, ((step st).run ((steps ss).run m).state).result)] :=
  record_append m ss [st]

theorem state_steps_snoc (m : Machine) (ss : List Step) (st : Step) :
    ((steps (ss ++ [st])).run m).state = ((step st).run ((steps ss).run m).state).state :=
  (steps_append ss [st] m).2

/-- What holds at first and is kept by every step holds of the record of any run and of the
machine that is reached. -/
theorem record_induction {Q : Record → Machine → Prop} {m : Machine} (hnil : Q [] m)
    (hQ : ∀ {h m' st response m''}, Q h m' → m'.Taken st response m'' →
      Q (h ++ [(st, response)]) m'') (ss : List Step) :
    Q (record m ss) ((steps ss).run m).state := by
  induction ss using List.reverseRecOn with
  | nil => exact hnil
  | append_singleton ss st ih =>
    rw [record_snoc, state_steps_snoc]
    exact hQ ih (step_taken st _)

theorem recorded_ofSettings (settings : StoreSettings) : Recorded [] (ofSettings settings) :=
  ⟨guarded_ofSettings settings, fun _ => .unborn, fun _ _ => rfl⟩

end Machine

end Turnstile
