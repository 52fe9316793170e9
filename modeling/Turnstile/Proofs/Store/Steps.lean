/-
# What a step does and answers

Every step of a machine is taken in one of a few ways, and each of them says what the step
answers and what machine it leaves.  `Machine.Taken` lists them; whatever is to be known of
steps is read off this list, so that nothing else has to look into their definitions.

A task that has not obtained its lock does nothing and reports a timeout; a task that has
obtained it either opens a transaction, and then this is all it does, or does its work.
-/
import Turnstile.Proofs.Store.Transactions
import Turnstile.Store.Machine

namespace Turnstile

/-- The ticket that a step is taken under, if it is taken under one. -/
def Step.ticket? : Step → Option Nat
  | .enter ticket | .giveUp ticket | .txList ticket _ | .txPlace ticket _ _ _ | .commit ticket
  | .rollback ticket | .drop ticket => some ticket
  | .arrive _ | .list _ => none

/-! ## The work of tasks -/

namespace Task

/-- Whether a task opens a transaction. -/
def opens : Task → Bool
  | begin _ => true
  | _ => false

/-- The work of a move is the move, but for what is logged when it begins. -/
theorem work_move_runOn (granted : Bool) (m : Move) (r : Rows) :
    let o := (Rows.begin granted m.owner).runOn r
    let o' := (m.proceed (Rows.interface granted) o.result).runOn o.state
    ((Task.move m).work granted).runOn r =
      ⟨o'.result.map Reply.items, o'.state, o.events ++ o'.events⟩ := by
  have hcaught := Attempt.runOn_caught (Rows.begin granted m.owner) r
  rw [Task.work, Attempt.runOn_bind_of_ok (congrArg Outcome.result hcaught), hcaught,
    Attempt.runOn_map]
  exact rfl

/-- The work of an insert is the insert. -/
theorem work_insert_runOn (owner name : String) (order : Int) (key : Uuid) (r : Rows) :
    ((insert owner name order key).work true).runOn r =
      ⟨(r.insert owner name order key).1.map Reply.item, (r.insert owner name order key).2,
        []⟩ := by
  rw [work, if_pos rfl]
  exact Attempt.runOn_map _ _ _

/-- The work of a delete is the delete, and its reply tells whether the row was there. -/
theorem work_delete_runOn (owner : String) (id : Int) (r : Rows) :
    ((delete owner id).work true).runOn r =
      ⟨.ok (.flag (decide (id ∈ (r.of owner).map Item.id))), (r.delete owner id).2, []⟩ := by
  have hthere : (r.delete owner id).1 = decide (id ∈ (r.of owner).map Item.id) :=
    Bool.eq_iff_iff.2 (Rows.delete_fst_iff.trans decide_eq_true_iff.symm)
  rw [← hthere, work, if_pos rfl]
  exact Attempt.runOn_map _ _ _

/-- A task that has not obtained its lock reports a timeout and leaves all rows alone. -/
theorem work_false_runOn (task : Task) (r : Rows) :
    ((task.work false).runOn r).result = .error (.storage (.lockTimeout task.owner)) ∧
      ((task.work false).runOn r).state = r := by
  cases task with
  | insert owner name order key => exact ⟨rfl, rfl⟩
  | delete owner id => exact ⟨rfl, rfl⟩
  | begin owner => exact ⟨rfl, rfl⟩
  | move m =>
    rw [work_move_runOn]
    exact ⟨rfl, rfl⟩

/-- Nothing but opening a transaction yields one. -/
theorem work_ne_opened {task : Task} (h : task.opens = false) (granted : Bool) (r : Rows)
    (tx : Transaction) : ((task.work granted).runOn r).result ≠ .ok (.opened tx) := by
  have hitem : ∀ x : Except Error Item, x.map Reply.item ≠ .ok (.opened tx) := by
    rintro (_ | _) <;> nofun
  have hitems : ∀ x : Except Error (List Item), x.map Reply.items ≠ .ok (.opened tx) := by
    rintro (_ | _) <;> nofun
  cases granted with
  | false =>
    rw [(work_false_runOn task r).1]
    nofun
  | true =>
    cases task with
    | insert owner name order key =>
      rw [work_insert_runOn]
      exact hitem _
    | delete owner id =>
      rw [work_delete_runOn]
      nofun
    | begin owner => cases h
    | move m =>
      rw [work_move_runOn]
      exact hitems _

end Task

/-! ## The ways in which a step is taken -/

namespace Machine

/-- Whether a step is possible. -/
def allows (m : Machine) : Step → Bool
  | .arrive _ | .list _ => true
  | .enter ticket => m.canEnter ticket
  | .giveUp ticket => m.canGiveUp ticket
  | .txList ticket _ | .txPlace ticket _ _ _ | .commit ticket | .rollback ticket
  | .drop ticket => (m.opened.get? ticket).isSome

/-- What a step answers and what machine it leaves. -/
inductive Taken (m : Machine) : Step → Response → Machine → Prop where
  /-- A step that is not possible does nothing. -/
  | impossible (st : Step) (h : m.allows st = false) : m.Taken st .impossible m
  /-- A task is refused at once. -/
  | refused (task : Task) (e : Error) (h : task.refusal? = some e) :
    m.Taken (.arrive task) (.refused e) m
  /-- A task claims its lock. -/
  | arrived (task : Task) (h : task.refusal? = none) :
    m.Taken (.arrive task) (.arrived m.nextTicket) { m with
      locks := m.locks.claim m.nextTicket task.owner
      waiting := m.waiting.insert m.nextTicket task
      nextTicket := m.nextTicket + 1 }
  /-- A task that holds its lock does its work and gives the lock back. -/
  | worked (ticket : Nat) (task : Task) (hwaiting : m.waiting.get? ticket = some task)
      (hholds : m.locks.holds ticket = true) (hopens : task.opens = false) :
    m.Taken (.enter ticket) (.ended ((task.work true).runOn m.rows).result)
      ({ m with rows := ((task.work true).runOn m.rows).state }.leave ticket)
  /-- A task that holds its lock opens a transaction and keeps the lock. -/
  | begun (ticket : Nat) (owner : String)
      (hwaiting : m.waiting.get? ticket = some (.begin owner))
      (hholds : m.locks.holds ticket = true) :
    m.Taken (.enter ticket) (.ended (.ok (.opened (m.rows.snapshot owner))))
      (m.keep ticket (m.rows.snapshot owner))
  /-- A task that does not hold its lock gives up. -/
  | gaveUp (ticket : Nat) (task : Task) (hwaiting : m.waiting.get? ticket = some task)
      (hholds : m.locks.holds ticket = false) :
    m.Taken (.giveUp ticket) (.ended (.error (.storage (.lockTimeout task.owner))))
      (m.leave ticket)
  /-- The committed rows of an owner are listed. -/
  | listed (owner : String) : m.Taken (.list owner) (.listed (.ok (m.rows.list owner))) m
  /-- The rows of an open transaction are listed. -/
  | txListed (ticket : Nat) (tx : Transaction) (hopen : m.opened.get? ticket = some tx)
      (owner : String) : m.Taken (.txList ticket owner) (.listed (tx.list owner)) m
  /-- A row has been placed in an open transaction, or the placement has been refused. -/
  | placed (ticket : Nat) (tx : Transaction) (hopen : m.opened.get? ticket = some tx) (id : Int)
      (owner : String) (order : Int) :
    m.Taken (.txPlace ticket id owner order) (.settled (tx.place id owner order).1)
      { m with opened := m.opened.insert ticket (tx.place id owner order).2 }
  /-- What a transaction did is published. -/
  | committed (ticket : Nat) (tx : Transaction) (hopen : m.opened.get? ticket = some tx) :
    m.Taken (.commit ticket) (.settled (.ok ()))
      ({ m with rows := m.rows.publish tx }.close ticket)
  /-- What a transaction did is discarded. -/
  | discarded (ticket : Nat) (tx : Transaction) (hopen : m.opened.get? ticket = some tx)
      (st : Step) (h : st = .rollback ticket ∨ st = .drop ticket) :
    m.Taken st (.settled (.ok ())) (m.close ticket)

variable {m : Machine}

/-- What is done with an open transaction is done, or the transaction is not open. -/
theorem withOpen_taken (st : Step) {ticket : Nat}
    (hst : m.allows st = (m.opened.get? ticket).isSome)
    {f : Transaction → Action Machine Response}
    (hf : ∀ tx, m.opened.get? ticket = some tx →
      m.Taken st ((f tx).run m).result ((f tx).run m).state) :
    m.Taken st ((withOpen ticket f).run m).result ((withOpen ticket f).run m).state := by
  cases hopen : m.opened.get? ticket with
  | none =>
    simp only [withOpen, Action.run, hopen]
    exact .impossible st (by rw [hst, hopen, Option.isSome_none])
  | some tx =>
    have hrun : (withOpen ticket f).run m = (f tx).run m := by
      simp only [withOpen, Action.run, hopen]
    rw [hrun]
    exact hf tx hopen

/-- The work of a task that opens no transaction ends with its claim given back. -/
theorem settle_of_ne_opened {ticket : Nat} {r : Except Error Reply}
    (h : ∀ tx, r ≠ .ok (.opened tx)) (m : Machine) : m.settle ticket r = m.leave ticket := by
  unfold settle
  split
  · next tx => exact absurd rfl (h tx)
  · rfl

theorem enter_taken (ticket : Nat) (m : Machine) :
    m.Taken (.enter ticket) ((enter ticket).run m).result ((enter ticket).run m).state := by
  cases hwaiting : m.waiting.get? ticket with
  | none =>
    simp only [enter, Action.run, hwaiting]
    exact .impossible _ (by simp [allows, canEnter, hwaiting])
  | some task =>
    cases hholds : m.locks.holds ticket with
    | false =>
      simp only [enter, Action.run, hwaiting, hholds]
      exact .impossible _ (by simp [allows, canEnter, hholds])
    | true =>
      simp only [enter, Action.run, hwaiting, hholds]
      cases hopens : task.opens with
      | true =>
        obtain ⟨owner, rfl⟩ : ∃ owner, task = .begin owner := by
          cases task <;> first | exact ⟨_, rfl⟩ | cases hopens
        exact .begun ticket owner hwaiting hholds
      | false =>
        have htaken := Taken.worked ticket task hwaiting hholds hopens
        rw [← settle_of_ne_opened (Task.work_ne_opened hopens true m.rows)] at htaken
        exact htaken

theorem giveUp_taken (ticket : Nat) (m : Machine) :
    m.Taken (.giveUp ticket) ((giveUp ticket).run m).result ((giveUp ticket).run m).state := by
  cases hwaiting : m.waiting.get? ticket with
  | none =>
    simp only [giveUp, Action.run, hwaiting]
    exact .impossible _ (by simp [allows, canGiveUp, hwaiting])
  | some task =>
    cases hholds : m.locks.holds ticket with
    | true =>
      simp only [giveUp, Action.run, hwaiting, hholds]
      exact .impossible _ (by simp [allows, canGiveUp, hholds])
    | false =>
      simp only [giveUp, Action.run, hwaiting, hholds]
      obtain ⟨hresult, hstate⟩ := task.work_false_runOn m.rows
      have htaken := Taken.gaveUp ticket task hwaiting hholds
      change m.Taken (.giveUp ticket) (.ended ((task.work false).runOn m.rows).result)
        (({ m with rows := ((task.work false).runOn m.rows).state }).settle ticket
          ((task.work false).runOn m.rows).result)
      rw [hresult, hstate]
      exact htaken

/-- Every step is taken in one of the ways listed. -/
theorem step_taken (st : Step) (m : Machine) :
    m.Taken st ((step st).run m).result ((step st).run m).state := by
  cases st with
  | arrive task =>
    cases hrefusal : task.refusal? with
    | some e =>
      simp only [step, arrive, Action.run, hrefusal]
      exact .refused task e hrefusal
    | none =>
      simp only [step, arrive, Action.run, hrefusal]
      exact .arrived task hrefusal
  | enter ticket => exact enter_taken ticket m
  | giveUp ticket => exact giveUp_taken ticket m
  | list owner => exact .listed owner
  | txList ticket owner =>
    exact withOpen_taken _ rfl fun tx hopen => .txListed ticket tx hopen owner
  | txPlace ticket id owner order =>
    exact withOpen_taken _ rfl fun tx hopen => .placed ticket tx hopen id owner order
  | commit ticket => exact withOpen_taken _ rfl fun tx hopen => .committed ticket tx hopen
  | rollback ticket =>
    exact withOpen_taken _ rfl fun tx hopen => .discarded ticket tx hopen _ (.inl rfl)
  | drop ticket =>
    exact withOpen_taken _ rfl fun tx hopen => .discarded ticket tx hopen _ (.inr rfl)

/-- A step that does more than nothing is possible. -/
theorem Taken.possible {st : Step} {response : Response} {m' : Machine}
    (h : m.Taken st response m') : m.allows st = true ∨ response = .impossible ∧ m' = m := by
  cases h with
  | impossible _ _ => exact .inr ⟨rfl, rfl⟩
  | refused _ _ _ | arrived _ _ | listed _ => exact .inl rfl
  | worked _ _ hwaiting hholds _ | begun _ _ hwaiting hholds =>
    exact .inl (by rw [allows, canEnter, hwaiting, hholds]; rfl)
  | gaveUp _ _ hwaiting hholds => exact .inl (by rw [allows, canGiveUp, hwaiting, hholds]; rfl)
  | txListed _ _ hopen _ | placed _ _ hopen _ _ _ | committed _ _ hopen =>
    exact .inl (by rw [allows, hopen]; rfl)
  | discarded _ _ hopen _ hst =>
    rcases hst with rfl | rfl <;> exact .inl (by rw [allows, hopen]; rfl)

/-- Tickets are given in ascending order. -/
theorem Taken.nextTicket_le {st : Step} {response : Response} {m' : Machine}
    (hm : m.Taken st response m') :
    m.nextTicket ≤ m'.nextTicket ∧ ∀ ticket, response = .arrived ticket →
      ticket = m.nextTicket ∧ ticket < m'.nextTicket := by
  cases hm with
  | arrived task _ =>
    refine ⟨Nat.le_succ _, fun ticket hticket => ?_⟩
    obtain rfl := Response.arrived.inj hticket
    exact ⟨rfl, Nat.lt_succ_self _⟩
  | _ => exact ⟨le_refl _, nofun⟩

/-- There is one way to take a step, and it is the one listed. -/
theorem Taken.run {st : Step} {response : Response} {m' : Machine} (h : m.Taken st response m') :
    ((step st).run m).result = response ∧ ((step st).run m).state = m' := by
  cases h with
  | impossible st hno =>
    refine (step_taken st m).possible.resolve_left fun hyes => ?_
    rw [hno] at hyes
    cases hyes
  | refused task e h | arrived task h => simp only [step, arrive, Action.run, h, and_self]
  | worked ticket task hwaiting hholds hopens =>
    have hsettle : ∀ m' : Machine, m'.settle ticket _ = m'.leave ticket :=
      settle_of_ne_opened (Task.work_ne_opened hopens true m.rows)
    simp only [step, enter, Action.run, hwaiting, hholds]
    exact ⟨rfl, hsettle _⟩
  | begun ticket owner hwaiting hholds =>
    simp only [step, enter, Action.run, hwaiting, hholds]
    exact ⟨rfl, rfl⟩
  | gaveUp ticket task hwaiting hholds =>
    obtain ⟨hresult, hstate⟩ := task.work_false_runOn m.rows
    simp only [step, giveUp, Action.run, hwaiting, hholds]
    change Response.ended ((task.work false).runOn m.rows).result = _ ∧
      ({ m with rows := ((task.work false).runOn m.rows).state }).settle ticket
        ((task.work false).runOn m.rows).result = _
    rw [hresult, hstate]
    exact ⟨rfl, rfl⟩
  | listed owner => exact ⟨rfl, rfl⟩
  | txListed ticket tx hopen owner =>
    simp only [step, txList, withOpen, Action.run, hopen]
    exact ⟨rfl, rfl⟩
  | placed ticket tx hopen id owner order =>
    simp only [step, txPlace, withOpen, Action.run, hopen]
    exact ⟨rfl, rfl⟩
  | committed ticket tx hopen =>
    simp only [step, closeAfter, withOpen, Action.run, hopen]
    exact ⟨rfl, rfl⟩
  | discarded ticket tx hopen st hst =>
    rcases hst with rfl | rfl <;> simp only [step, closeAfter, withOpen, Action.run, hopen]
    · exact ⟨rfl, rfl⟩
    · exact ⟨rfl, rfl⟩

/-! ## Steps in sequence -/

theorem steps_append (xs ys : List Step) (m : Machine) :
    ((steps (xs ++ ys)).run m).result =
        ((steps xs).run m).result ++ ((steps ys).run ((steps xs).run m).state).result ∧
      ((steps (xs ++ ys)).run m).state = ((steps ys).run ((steps xs).run m).state).state := by
  induction xs generalizing m with
  | nil => exact ⟨rfl, rfl⟩
  | cons x xs ih =>
    obtain ⟨hresult, hstate⟩ := ih ((step x).run m).state
    exact ⟨congrArg (((step x).run m).result :: ·) hresult, hstate⟩

theorem length_steps (ss : List Step) (m : Machine) :
    ((steps ss).run m).result.length = ss.length := by
  induction ss generalizing m with
  | nil => rfl
  | cons st ss ih => exact congrArg (· + 1) (ih ((step st).run m).state)

end Machine

end Turnstile
