/-
# Who is inside

A task that waits for an owner's lock uses it, and so does an open transaction; the one
that holds the lock is inside.  The locks are pruned and waiters give up at any moment, and
still, in every state that any interleaving of tasks can lead to:

- every owner whose lock is used has one lock in the table, which is the one that all its
  users claim, and exactly one user inside;
- an open transaction is inside, and no step is taken under a ticket that is not, unless it
  is to give up;
- a ticket whose task has given up or done its work, or whose transaction has been closed,
  uses no lock any more;
- after a lock has been looked up, the table has that lock and those that are used;
- tasks that can go on will have done so after finitely many steps, and those that still
  wait then wait for an open transaction.
-/
import Turnstile.Proofs.Store.Locks
import Turnstile.Proofs.Store.Reachable

namespace Turnstile

/-! ## Who uses a lock -/

namespace Step

/-- The ticket that has no more use for its lock after a step with an answer, if one has none:
its task gave up or did work that opened no transaction, or its transaction was closed. -/
def releases? : Step → Response → Option Nat
  | .enter _, .ended (.ok (.opened _)) => none
  | .enter ticket, .ended _ | .giveUp ticket, .ended _ | .commit ticket, .settled _
  | .rollback ticket, .settled _ | .drop ticket, .settled _ => some ticket
  | _, _ => none

variable {st : Step} {response : Response} {ticket : Nat}

theorem releases?_enter {r : Except Error Reply} (h : ∀ tx, r ≠ .ok (.opened tx)) :
    releases? (.enter ticket) (.ended r) = some ticket := by
  cases r with
  | error e => rfl
  | ok reply =>
    cases reply with
    | opened tx => exact absurd rfl (h tx)
    | item _ | flag _ | items _ => rfl

theorem releases?_impossible : st.releases? .impossible = none := by
  cases st <;> rfl

/-- A lock is released by a step that is taken under its ticket and possible. -/
theorem ticket?_of_releases? (h : st.releases? response = some ticket) :
    st.ticket? = some ticket ∧ response ≠ .impossible := by
  unfold releases? at h
  split at h <;> cases h <;> exact ⟨rfl, nofun⟩

end Step

namespace Machine

/-- A ticket waits for the lock of an owner or has a transaction open under it. -/
def Uses (m : Machine) (ticket : Nat) (owner : String) : Prop :=
  (∃ task, m.waiting.get? ticket = some task ∧ task.owner = owner) ∨
    ∃ tx, m.opened.get? ticket = some tx ∧ tx.owner = owner

/-- A ticket uses the lock of an owner and holds it. -/
def Inside (m : Machine) (ticket : Nat) (owner : String) : Prop :=
  m.Uses ticket owner ∧ m.locks.holds ticket = true

/-- No task that waits can go on. -/
def Settled (m : Machine) : Prop := ∀ ticket, m.canEnter ticket = false

/-- The claims are those of the tasks that wait and of the open transactions, which all hold
their locks. -/
structure Guarded (m : Machine) : Prop where
  lawful : m.locks.Lawful
  tickets : ∀ c ∈ m.locks.claims, c.ticket < m.nextTicket
  users : ∀ ticket owner,
    m.Uses ticket owner ↔ ∃ c ∈ m.locks.claims, c.ticket = ticket ∧ c.owner = owner
  apart : ∀ ticket, m.waiting.get? ticket = none ∨ m.opened.get? ticket = none
  inside : ∀ ticket tx, m.opened.get? ticket = some tx → m.locks.holds ticket = true

variable {m : Machine}

/-- The machine without a ticket. -/
def without (m : Machine) (ticket : Nat) : Machine :=
  { m with
    waiting := m.waiting.erase ticket
    opened := m.opened.erase ticket
    locks := m.locks.release ticket }

theorem leave_eq_without {ticket : Nat} (h : m.opened.get? ticket = none) :
    m.leave ticket = m.without ticket := by
  rw [leave, without, Register.erase_of_get?_eq_none h]

theorem close_eq_without {ticket : Nat} (h : m.waiting.get? ticket = none) :
    m.close ticket = m.without ticket := by
  rw [close, without, Register.erase_of_get?_eq_none h]

theorem uses_without {ticket ticket' : Nat} {owner : String} :
    (m.without ticket).Uses ticket' owner ↔ ticket' ≠ ticket ∧ m.Uses ticket' owner := by
  rw [Uses, without, Register.get?_erase, Register.get?_erase]
  by_cases heq : ticket = ticket'
  · simp [heq]
  · simp [Uses, heq, Ne.symm heq]

theorem uses_keep {ticket ticket' : Nat} {owner : String} {task : Task} {tx : Transaction}
    (hwaiting : m.waiting.get? ticket = some task) (hopened : m.opened.get? ticket = none)
    (howner : task.owner = tx.owner) :
    (m.keep ticket tx).Uses ticket' owner ↔ m.Uses ticket' owner := by
  rw [Uses, keep, Register.get?_erase, Register.get?_insert]
  by_cases heq : ticket = ticket'
  · subst heq
    simp [Uses, hwaiting, hopened, howner]
  · simp [Uses, heq]

/-- What is done in an open transaction changes nothing about who uses what. -/
theorem uses_insert_opened {ticket ticket' : Nat} {owner : String} {tx tx' : Transaction}
    (hopen : m.opened.get? ticket = some tx) (howner : tx'.owner = tx.owner) :
    ({ m with opened := m.opened.insert ticket tx' } : Machine).Uses ticket' owner ↔
      m.Uses ticket' owner := by
  rw [Uses, Register.get?_insert]
  by_cases heq : ticket = ticket'
  · subst heq
    simp [Uses, hopen, howner]
  · simp [Uses, heq]

namespace Guarded

theorem lt_nextTicket (h : m.Guarded) {ticket : Nat} {owner : String}
    (huses : m.Uses ticket owner) : ticket < m.nextTicket := by
  obtain ⟨c, hc, rfl, -⟩ := (h.users _ _).1 huses
  exact h.tickets c hc

/-- A ticket that is still to come uses no lock. -/
theorem not_uses_nextTicket (h : m.Guarded) (owner : String) : ¬m.Uses m.nextTicket owner :=
  fun huses => (h.lt_nextTicket huses).ne rfl

theorem opened_nextTicket (h : m.Guarded) : m.opened.get? m.nextTicket = none := by
  cases hopened : m.opened.get? m.nextTicket with
  | none => rfl
  | some tx => exact absurd (.inr ⟨tx, hopened, rfl⟩) (h.not_uses_nextTicket tx.owner)

theorem opened_of_waiting (h : m.Guarded) {ticket : Nat} {task : Task}
    (hwaiting : m.waiting.get? ticket = some task) : m.opened.get? ticket = none := by
  refine (h.apart ticket).resolve_left fun hnone => ?_
  rw [hwaiting] at hnone
  cases hnone

theorem waiting_of_opened (h : m.Guarded) {ticket : Nat} {tx : Transaction}
    (hopen : m.opened.get? ticket = some tx) : m.waiting.get? ticket = none := by
  refine (h.apart ticket).resolve_right fun hnone => ?_
  rw [hopen] at hnone
  cases hnone

theorem without (h : m.Guarded) (ticket : Nat) : (m.without ticket).Guarded where
  lawful := h.lawful.release ticket
  tickets c hc := h.tickets c (List.mem_of_mem_filter hc)
  users ticket' owner := by
    rw [uses_without, h.users]
    constructor
    · rintro ⟨hne, c, hc, rfl, rfl⟩
      exact ⟨c, List.mem_filter.2 ⟨hc, bne_iff_ne.2 hne⟩, rfl, rfl⟩
    · rintro ⟨c, hc, rfl, rfl⟩
      obtain ⟨hc, hne⟩ := List.mem_filter.1 hc
      exact ⟨bne_iff_ne.1 hne, c, hc, rfl, rfl⟩
  apart ticket' := by
    rw [Machine.without, Register.get?_erase, Register.get?_erase]
    split
    · exact .inl rfl
    · exact h.apart ticket'
  inside ticket' tx hopen := by
    rw [Machine.without, Register.get?_erase] at hopen
    split at hopen
    · cases hopen
    · next hne => exact h.lawful.holds_release (Ne.symm hne) (h.inside ticket' tx hopen)

/-- A task that begins uses its lock, and nobody else begins or ceases to use one. -/
theorem uses_arrive (h : m.Guarded) (task : Task) {locks : OwnerLocks} {next ticket : Nat}
    {owner : String} :
    Uses { m with
      locks := locks
      waiting := m.waiting.insert m.nextTicket task
      nextTicket := next } ticket owner ↔
      m.Uses ticket owner ∨ m.nextTicket = ticket ∧ task.owner = owner := by
  rw [Uses, Register.get?_insert]
  by_cases heq : m.nextTicket = ticket
  · subst heq
    simp [h.opened_nextTicket, h.not_uses_nextTicket owner]
  · simp [heq, Uses]

/-- A task that claims its lock uses it from then on. -/
theorem arrive (h : m.Guarded) (task : Task) : Guarded { m with
    locks := m.locks.claim m.nextTicket task.owner
    waiting := m.waiting.insert m.nextTicket task
    nextTicket := m.nextTicket + 1 } where
  lawful := h.lawful.claim h.tickets task.owner
  tickets c hc := by
    rw [OwnerLocks.claims_claim, (h.lawful.lookUp task.owner).2.1, List.mem_append,
      List.mem_singleton] at hc
    rcases hc with hc | rfl
    · exact Nat.lt_succ_of_lt (h.tickets c hc)
    · exact Nat.lt_succ_self _
  users ticket owner := by
    rw [OwnerLocks.claims_claim, (h.lawful.lookUp task.owner).2.1, h.uses_arrive task, h.users]
    simp [or_and_right, exists_or]
  apart ticket := by
    rw [Register.get?_insert]
    split
    · next heq => exact .inr (heq ▸ h.opened_nextTicket)
    · exact h.apart ticket
  inside ticket tx hopen := h.lawful.holds_claim h.tickets task.owner (h.inside ticket tx hopen)

/-- A task that opens a transaction keeps using its lock. -/
theorem keep (h : m.Guarded) {ticket : Nat} {task : Task} {tx : Transaction}
    (hwaiting : m.waiting.get? ticket = some task) (hholds : m.locks.holds ticket = true)
    (howner : task.owner = tx.owner) : (m.keep ticket tx).Guarded where
  lawful := h.lawful
  tickets := h.tickets
  users ticket' owner :=
    (uses_keep hwaiting (h.opened_of_waiting hwaiting) howner).trans (h.users ticket' owner)
  apart ticket' := by
    rw [Machine.keep, Register.get?_erase, Register.get?_insert]
    split
    · exact .inl rfl
    · exact h.apart ticket'
  inside ticket' tx' hopen := by
    rw [Machine.keep, Register.get?_insert] at hopen
    split at hopen
    · next heq => exact heq ▸ hholds
    · exact h.inside ticket' tx' hopen

/-- What is done in an open transaction leaves the locks as they are. -/
theorem insert_opened (h : m.Guarded) {ticket : Nat} {tx tx' : Transaction}
    (hopen : m.opened.get? ticket = some tx) (howner : tx'.owner = tx.owner) :
    Guarded { m with opened := m.opened.insert ticket tx' } where
  lawful := h.lawful
  tickets := h.tickets
  users ticket' owner := (uses_insert_opened hopen howner).trans (h.users ticket' owner)
  apart ticket' := by
    rw [Register.get?_insert]
    split
    · next heq => exact .inl (heq ▸ h.waiting_of_opened hopen)
    · exact h.apart ticket'
  inside ticket' tx'' hopen' := by
    rw [Register.get?_insert] at hopen'
    split at hopen'
    · next heq => exact heq ▸ h.inside ticket tx hopen
    · exact h.inside ticket' tx'' hopen'

/-- The rows have nothing to do with it. -/
theorem withRows (h : m.Guarded) (r : Rows) : Guarded { m with rows := r } :=
  ⟨h.lawful, h.tickets, h.users, h.apart, h.inside⟩

theorem taken (h : m.Guarded) {m' : Machine} {st : Step} {response : Response}
    (hm : m.Taken st response m') : m'.Guarded := by
  cases hm with
  | impossible _ _ | refused _ _ _ | listed _ | txListed _ _ _ _ => exact h
  | arrived task _ => exact h.arrive task
  | worked ticket task hwaiting _ _ =>
    have hopened := h.opened_of_waiting hwaiting
    rw [leave_eq_without (by exact hopened)]
    exact (h.withRows _).without ticket
  | begun ticket owner hwaiting hholds => exact h.keep hwaiting hholds rfl
  | gaveUp ticket task hwaiting _ =>
    rw [leave_eq_without (h.opened_of_waiting hwaiting)]
    exact h.without ticket
  | placed ticket tx hopen id owner order =>
    exact h.insert_opened hopen (tx.place_owner id owner order)
  | committed ticket tx hopen =>
    have hwaiting := h.waiting_of_opened hopen
    rw [close_eq_without (by exact hwaiting)]
    exact (h.withRows _).without ticket
  | discarded ticket tx hopen _ _ =>
    rw [close_eq_without (h.waiting_of_opened hopen)]
    exact h.without ticket

end Guarded

theorem guarded_ofSettings (settings : StoreSettings) : (ofSettings settings).Guarded where
  lawful := OwnerLocks.lawful_empty
  tickets := nofun
  users _ _ := by
    refine ⟨fun h => ?_, fun ⟨_, h, _⟩ => absurd h List.not_mem_nil⟩
    rcases h with ⟨_, h, _⟩ | ⟨_, h, _⟩ <;> cases h
  apart _ := .inl rfl
  inside := nofun

theorem reached_guarded (settings : StoreSettings) (ss : List Step) :
    (reached settings ss).Guarded :=
  steps_induction (fun h hm => h.taken hm) ss (guarded_ofSettings settings)

/-- The locks are consistent, and all claims have been made with earlier tickets than the
next. -/
structure Orderly (m : Machine) : Prop where
  locks : m.locks.Consistent
  tickets : ∀ c ∈ m.locks.claims, c.ticket < m.nextTicket

theorem reached_orderly (settings : StoreSettings) (ss : List Step) :
    (reached settings ss).Orderly :=
  ⟨(reached_guarded settings ss).lawful.toConsistent, (reached_guarded settings ss).tickets⟩

/-! ## Safety of the locks -/

namespace Guarded

theorem uses_of_mem (h : m.Guarded) {c : Claim} (hc : c ∈ m.locks.claims) :
    m.Uses c.ticket c.owner := (h.users _ _).2 ⟨c, hc, rfl, rfl⟩

theorem exclusive (h : m.Guarded) {ticket ticket' : Nat} {owner : String}
    (hin : m.Inside ticket owner) (hin' : m.Inside ticket' owner) : ticket = ticket' := by
  obtain ⟨⟨c, hc, rfl, rfl⟩, hholds⟩ := hin.imp_left (h.users _ _).1
  obtain ⟨⟨d, hd, rfl, howner⟩, hholds'⟩ := hin'.imp_left (h.users _ _).1
  exact h.lawful.holder_unique hc hd howner.symm hholds hholds'

theorem occupied (h : m.Guarded) {ticket : Nat} {owner : String} (huses : m.Uses ticket owner) :
    ∃ ticket', m.Inside ticket' owner := by
  obtain ⟨c, hc, -, rfl⟩ := (h.users _ _).1 huses
  obtain ⟨d, hd, howner, hholds⟩ := h.lawful.exists_holder hc
  exact ⟨d.ticket, howner ▸ h.uses_of_mem hd, hholds⟩

/-- Those who use a lock after a step used it before and have not released it, or have begun
with this step. -/
theorem uses_taken (h : m.Guarded) {m' : Machine} {st : Step} {response : Response}
    (hm : m.Taken st response m') {ticket : Nat} {owner : String} :
    m'.Uses ticket owner ↔ st.releases? response ≠ some ticket ∧ m.Uses ticket owner ∨
      ∃ task, st = .arrive task ∧ response = .arrived ticket ∧ task.owner = owner := by
  cases hm with
  | impossible _ _ => simp [Step.releases?_impossible]
  | refused _ _ _ | listed _ | txListed _ _ _ _ => simp [Step.releases?]
  | arrived task _ => simp [Step.releases?, h.uses_arrive task]
  | worked t task hwaiting _ hopens =>
    rw [Step.releases?_enter (Task.work_ne_opened hopens true m.rows),
      leave_eq_without (by exact h.opened_of_waiting hwaiting), uses_without]
    simp [Uses, eq_comm]
  | begun t owner' hwaiting _ =>
    rw [uses_keep hwaiting (h.opened_of_waiting hwaiting) rfl]
    simp [Step.releases?]
  | gaveUp t task hwaiting _ =>
    rw [leave_eq_without (h.opened_of_waiting hwaiting), uses_without]
    simp [Step.releases?, eq_comm]
  | placed t tx hopen id owner' order =>
    rw [uses_insert_opened hopen (tx.place_owner id owner' order)]
    simp [Step.releases?]
  | committed t tx hopen =>
    rw [close_eq_without (by exact h.waiting_of_opened hopen), uses_without]
    simp [Step.releases?, Uses, eq_comm]
  | discarded t tx hopen _ hst =>
    rw [close_eq_without (h.waiting_of_opened hopen), uses_without]
    rcases hst with rfl | rfl <;> simp [Step.releases?, eq_comm]

theorem inside_of_opened (h : m.Guarded) {ticket : Nat} {tx : Transaction}
    (hopen : m.opened.get? ticket = some tx) : m.Inside ticket tx.owner :=
  ⟨.inr ⟨tx, hopen, rfl⟩, h.inside ticket tx hopen⟩

/-- What is done under a ticket is done by one that uses a lock and, unless it gives up, holds
it. -/
theorem uses_of_taken (h : m.Guarded) {m' : Machine} {st : Step} {response : Response}
    (hm : m.Taken st response m') {ticket : Nat} (hticket : st.ticket? = some ticket)
    (hpossible : response ≠ .impossible) :
    ∃ owner, m.Uses ticket owner ∧ (st ≠ .giveUp ticket → m.locks.holds ticket = true) := by
  cases hm with
  | impossible _ _ => exact absurd rfl hpossible
  | refused _ _ _ | arrived _ _ | listed _ => cases hticket
  | gaveUp ticket' task hwaiting _ =>
    obtain rfl : ticket' = ticket := Option.some.inj hticket
    exact ⟨task.owner, .inl ⟨task, hwaiting, rfl⟩, fun hstays => absurd rfl hstays⟩
  | worked ticket' task hwaiting hholds _ =>
    obtain rfl : ticket' = ticket := Option.some.inj hticket
    exact ⟨task.owner, .inl ⟨task, hwaiting, rfl⟩, fun _ => hholds⟩
  | begun ticket' owner hwaiting hholds =>
    obtain rfl : ticket' = ticket := Option.some.inj hticket
    exact ⟨owner, .inl ⟨_, hwaiting, rfl⟩, fun _ => hholds⟩
  | txListed ticket' tx hopen _ | placed ticket' tx hopen _ _ _ | committed ticket' tx hopen =>
    obtain rfl : ticket' = ticket := Option.some.inj hticket
    exact ⟨tx.owner, (h.inside_of_opened hopen).imp_right fun hholds _ => hholds⟩
  | discarded ticket' tx hopen _ hst =>
    obtain rfl : ticket' = ticket := by
      rcases hst with rfl | rfl <;> exact Option.some.inj hticket
    exact ⟨tx.owner, (h.inside_of_opened hopen).imp_right fun hholds _ => hholds⟩

/-- Whatever is done under a ticket, unless it gives up, is done inside. -/
theorem inside_of_taken (h : m.Guarded) {m' : Machine} {st : Step} {response : Response}
    (hm : m.Taken st response m') {ticket : Nat} (hticket : st.ticket? = some ticket)
    (hstays : st ≠ .giveUp ticket) (hpossible : response ≠ .impossible) :
    ∃ owner, m.Inside ticket owner := by
  obtain ⟨owner, huses, hholds⟩ := h.uses_of_taken hm hticket hpossible
  exact ⟨owner, huses, hholds hstays⟩

/-- A ticket that has released its lock uses none from then on, and has no claim. -/
theorem released (h : m.Guarded) {m' : Machine} {st : Step} {response : Response}
    (hm : m.Taken st response m') {ticket : Nat} (hreleases : st.releases? response = some ticket)
    (ss : List Step) :
    let after := ((steps ss).run m').state
    after.locks.claimOf? ticket = none ∧ ∀ owner, ¬after.Uses ticket owner := by
  intro after
  -- tickets are given once, so nobody can begin under this one
  let Q : Machine → Prop := fun m₁ =>
    m₁.Guarded ∧ ticket < m₁.nextTicket ∧ ∀ owner, ¬m₁.Uses ticket owner
  have hstart : Q m' := by
    obtain ⟨hticket, hpossible⟩ := Step.ticket?_of_releases? hreleases
    obtain ⟨owner, huses, -⟩ := h.uses_of_taken hm hticket hpossible
    refine ⟨h.taken hm, (h.lt_nextTicket huses).trans_le hm.nextTicket_le.1,
      fun owner' huses' => ?_⟩
    obtain ⟨hkeeps, -⟩ | ⟨task, rfl, -, -⟩ := (h.uses_taken hm).1 huses'
    · exact hkeeps hreleases
    · cases hticket
  have hstep : ∀ {m₁ st₁ response₁ m₂}, Q m₁ → Taken m₁ st₁ response₁ m₂ → Q m₂ := by
    rintro m₁ st₁ response₁ m₂ ⟨hguarded, hlt, hnone⟩ hm₁
    refine ⟨hguarded.taken hm₁, hlt.trans_le hm₁.nextTicket_le.1, fun owner huses => ?_⟩
    obtain ⟨-, huses⟩ | ⟨task, -, harrived, -⟩ := (hguarded.uses_taken hm₁).1 huses
    · exact hnone owner huses
    · exact hlt.ne (hm₁.nextTicket_le.2 ticket harrived).1
  obtain ⟨hguarded, -, hnone⟩ : Q after := steps_induction hstep ss hstart
  refine ⟨?_, hnone⟩
  cases hclaim : after.locks.claimOf? ticket with
  | none => rfl
  | some c =>
    obtain ⟨hc, rfl⟩ := hguarded.lawful.claimOf?_eq_some_iff.1 hclaim
    exact absurd (hguarded.uses_of_mem hc) (hnone c.owner)

theorem single (h : m.Guarded) {ticket : Nat} {owner : String} (huses : m.Uses ticket owner) :
    ∃ lock, m.locks.table.entries.filter (fun e => e.1 == owner) = [(owner, lock)] ∧
      ∀ ticket', m.Uses ticket' owner →
        m.locks.claimOf? ticket' = some ⟨ticket', owner, lock⟩ := by
  obtain ⟨c, hc, -, rfl⟩ := (h.users _ _).1 huses
  refine ⟨c.lock, h.lawful.filter_table hc, fun ticket' huses' => ?_⟩
  obtain ⟨d, hd, rfl, howner⟩ := (h.users _ _).1 huses'
  rw [← howner, ← (h.lawful.lock_eq_iff hd hc).2 howner]
  exact h.lawful.claimOf?_eq_some_iff.2 ⟨hd, rfl⟩

theorem mem_owners_lookUp (h : m.Guarded) {owner owner' : String} :
    owner' ∈ (m.locks.lookUp owner).2.owners ↔ owner' = owner ∨ ∃ ticket, m.Uses ticket owner' := by
  rw [h.lawful.mem_owners_lookUp]
  refine or_congr_right ⟨fun ⟨c, hc, howner⟩ => ⟨c.ticket, howner ▸ h.uses_of_mem hc⟩, ?_⟩
  rintro ⟨ticket, huses⟩
  obtain ⟨c, hc, -, howner⟩ := (h.users _ _).1 huses
  exact ⟨c, hc, howner⟩

/-- A task that cannot go on waits for an open transaction once nobody can go on. -/
theorem exists_opened_of_settled (h : m.Guarded) (hsettled : m.Settled) {ticket : Nat}
    {task : Task} (hwaiting : m.waiting.get? ticket = some task) :
    ∃ ticket' tx, m.opened.get? ticket' = some tx ∧ m.Inside ticket' task.owner := by
  obtain ⟨ticket', huses, hholds⟩ := h.occupied (.inl ⟨task, hwaiting, rfl⟩)
  rcases id huses with ⟨task', hwaiting', -⟩ | ⟨tx, hopen, -⟩
  · have hcan := hsettled ticket'
    rw [canEnter, hwaiting', hholds] at hcan
    cases hcan
  · exact ⟨ticket', tx, hopen, huses, hholds⟩

end Guarded

/-- A task that goes on waits no longer. -/
theorem waiting_of_taken_enter {m' : Machine} {ticket : Nat} {response : Response}
    (hcan : m.canEnter ticket = true) (hm : m.Taken (.enter ticket) response m') :
    m'.waiting = m.waiting.erase ticket := by
  cases hm with
  | impossible _ h =>
    rw [allows, hcan] at h
    cases h
  | worked _ _ _ _ _ => rfl
  | begun _ _ _ _ => rfl
  | discarded _ _ _ _ h => rcases h with h | h <;> cases h

/-- Tasks that can go on will have done so after finitely many steps. -/
theorem exists_settled (m : Machine) :
    ∃ tickets : List Nat, ((steps (tickets.map Step.enter)).run m).state.Settled := by
  induction hsize : m.waiting.size using Nat.strong_induction_on generalizing m with
  | h size ih =>
    by_cases hsettled : m.Settled
    · exact ⟨[], hsettled⟩
    · obtain ⟨ticket, hcan⟩ := not_forall.1 hsettled
      have hcan := Bool.eq_true_of_not_eq_false hcan
      have hless : ((step (.enter ticket)).run m).state.waiting.size < size := by
        rw [waiting_of_taken_enter hcan (step_taken (.enter ticket) m), ← hsize]
        obtain ⟨task, hwaiting⟩ := Option.isSome_iff_exists.1 (Bool.and_eq_true_iff.1 hcan).1
        refine List.length_filter_lt_length_iff_exists.2
          ⟨_, Register.mem_of_findIn_eq_some hwaiting, by simp⟩
      obtain ⟨tickets, htickets⟩ := ih _ hless _ rfl
      exact ⟨ticket :: tickets, htickets⟩

/-- A lock is released when a task gives up or does work that opens no transaction, and when a
transaction is closed, provided that this is possible. -/
theorem releases_of_taken {m' : Machine} {st : Step} {response : Response} {ticket : Nat}
    (hm : m.Taken st response m') (hallows : m.allows st = true)
    (hends : st ∈ [.giveUp ticket, .commit ticket, .rollback ticket, .drop ticket] ∨
      st = .enter ticket ∧ ∃ task, m.waiting.get? ticket = some task ∧ task.opens = false) :
    st.releases? response = some ticket := by
  cases hm with
  | impossible _ h =>
    rw [hallows] at h
    cases h
  | worked t task _ _ hopens =>
    obtain rfl : t = ticket := by simpa using hends.imp_right And.left
    exact Step.releases?_enter (Task.work_ne_opened hopens true m.rows)
  | begun t owner hwaiting _ =>
    obtain ⟨rfl, task, htask, hopens⟩ :
        t = ticket ∧ ∃ task, m.waiting.get? ticket = some task ∧ task.opens = false := by
      simpa using hends
    obtain rfl : Task.begin owner = task := Option.some.inj (hwaiting.symm.trans htask)
    cases hopens
  | gaveUp t _ _ _ | committed t _ _ =>
    obtain rfl : t = ticket := by simpa using hends
    rfl
  | discarded t _ _ _ hst =>
    rcases hst with rfl | rfl
    all_goals
      obtain rfl : t = ticket := by simpa using hends
      rfl
  | _ => simp at hends

/-- The locks of a machine keep apart those who use them. -/
structure LocksSafe (m : Machine) : Prop where
  /-- At most one user of an owner's lock is inside. -/
  exclusive : ∀ {ticket ticket' owner}, m.Inside ticket owner → m.Inside ticket' owner →
    ticket = ticket'
  /-- An open transaction is inside. -/
  opened : ∀ {ticket tx}, m.opened.get? ticket = some tx → m.Inside ticket tx.owner
  /-- Whatever is done under a ticket, unless it gives up, is done inside. -/
  stepped : ∀ {st ticket}, st.ticket? = some ticket → st ≠ .giveUp ticket →
    ((step st).run m).result ≠ .impossible → ∃ owner, m.Inside ticket owner
  /-- A lock is released when a task gives up or does work that opens no transaction, and when a
  transaction is closed, provided that this is possible. -/
  releases : ∀ {st ticket}, m.allows st = true →
    (st ∈ [.giveUp ticket, .commit ticket, .rollback ticket, .drop ticket] ∨
      st = .enter ticket ∧ ∃ task, m.waiting.get? ticket = some task ∧ task.opens = false) →
    st.releases? ((step st).run m).result = some ticket
  /-- Those who use a lock after a step used it before and have not released it, or have begun
  with this step. -/
  used : ∀ {st ticket owner}, ((step st).run m).state.Uses ticket owner ↔
    st.releases? ((step st).run m).result ≠ some ticket ∧ m.Uses ticket owner ∨
      ∃ task, st = .arrive task ∧ ((step st).run m).result = .arrived ticket ∧ task.owner = owner
  /-- A ticket that has released its lock uses none from then on, and has no claim. -/
  released : ∀ {st ticket}, st.releases? ((step st).run m).result = some ticket →
    ∀ ss : List Step, let after := ((steps ss).run ((step st).run m).state).state
      after.locks.claimOf? ticket = none ∧ ∀ owner, ¬after.Uses ticket owner
  /-- A lock that is used has one entry in the table, and all who use it claim this one. -/
  single : ∀ {ticket owner}, m.Uses ticket owner →
    ∃ lock, m.locks.table.entries.filter (fun e => e.1 == owner) = [(owner, lock)] ∧
      ∀ ticket', m.Uses ticket' owner →
        m.locks.claimOf? ticket' = some ⟨ticket', owner, lock⟩
  /-- After a lock has been looked up, the table has that lock and those that are used, each
  of them once. -/
  pruned : ∀ owner, (m.locks.lookUp owner).2.owners.Nodup ∧
    ∀ owner', owner' ∈ (m.locks.lookUp owner).2.owners ↔
      owner' = owner ∨ ∃ ticket, m.Uses ticket owner'
  /-- A task that begins looks up the lock of its owner. -/
  lookedUp : ∀ {task : Task}, task.refusal? = none →
    ((step (.arrive task)).run m).state.locks.table = (m.locks.lookUp task.owner).2.table
  /-- A lock that is used is never free: one of those who use it holds it. -/
  occupied : ∀ {ticket owner}, m.Uses ticket owner → ∃ ticket', m.Inside ticket' owner
  /-- Once no task can go on, every task that waits does so for an open transaction. -/
  settled : m.Settled → ∀ {ticket task}, m.waiting.get? ticket = some task →
    ∃ ticket' tx, m.opened.get? ticket' = some tx ∧ m.Inside ticket' task.owner
  /-- Tasks that can go on will have done so after finitely many steps. -/
  settles : ∃ tickets : List Nat, ((steps (tickets.map Step.enter)).run m).state.Settled

/-- In every state that any interleaving of tasks leads to, whoever waits, gives up, works or
closes a transaction, the locks are safe. -/
theorem reached_locksSafe (settings : StoreSettings) (ss : List Step) :
    (reached settings ss).LocksSafe where
  exclusive := (reached_guarded settings ss).exclusive
  opened := (reached_guarded settings ss).inside_of_opened
  stepped hticket hstays hpossible :=
    (reached_guarded settings ss).inside_of_taken (step_taken _ _) hticket hstays hpossible
  releases := releases_of_taken (step_taken _ _)
  used := (reached_guarded settings ss).uses_taken (step_taken _ _)
  released := (reached_guarded settings ss).released (step_taken _ _)
  single := (reached_guarded settings ss).single
  pruned owner := ⟨((reached_guarded settings ss).lawful.lookUp owner).1.owners,
    fun _ => (reached_guarded settings ss).mem_owners_lookUp⟩
  lookedUp h := by
    simp only [step, Machine.arrive, Action.run, h]
    rfl
  occupied := (reached_guarded settings ss).occupied
  settled := (reached_guarded settings ss).exists_opened_of_settled
  settles := exists_settled _

/-- One transaction is open, one task that waited for it has given up, another one still
waits; and a task of another owner has been and gone.  Once the transaction is committed, its
ticket uses no lock any more. -/
theorem reached_locksSafe_after_timeout :
    let m := reached {} [.arrive (.begin "ann"), .enter 0, .arrive (.delete "ann" 1),
      .arrive (.delete "bob" 1), .arrive (.insert "ann" "a" 1 ⟨1⟩), .giveUp 1, .enter 2]
    m.Uses 3 "ann" ∧ m.Settled ∧ m.Inside 0 "ann" ∧ ¬m.Inside 3 "ann" ∧
      (∀ owner', owner' ∈ (m.locks.lookUp "cid").2.owners ↔
        owner' = "cid" ∨ ∃ ticket, m.Uses ticket owner') ∧
      ∀ ss owner, ¬((steps ss).run ((step (.commit 0)).run m).state).state.Uses 0 owner := by
  intro m
  have hsafe : m.LocksSafe := reached_locksSafe {} _
  have hwaiting : m.waiting = ⟨[(3, .insert "ann" "a" 1 ⟨1⟩)]⟩ := by decide +kernel
  have hopen : m.opened.get? 0 = some ⟨"ann", []⟩ := by decide +kernel
  have hholds : m.locks.holds 3 = false := by decide +kernel
  have hthree : m.waiting.get? 3 = some (.insert "ann" "a" 1 ⟨1⟩) := by
    rw [hwaiting]
    rfl
  have hallows : m.allows (.commit 0) = true := by
    rw [allows, hopen]
    rfl
  have hreleases : Step.releases? (.commit 0) ((step (.commit 0)).run m).result = some 0 :=
    hsafe.releases hallows (.inl (by decide))
  refine ⟨.inl ⟨_, hthree, rfl⟩, fun ticket => ?_, hsafe.opened hopen, fun hin => ?_,
    (hsafe.pruned "cid").2, fun ss => (hsafe.released hreleases ss).2⟩
  · rw [canEnter, hwaiting, Register.get?, Register.findIn, Register.findIn]
    split
    · next heq => exact heq ▸ hholds
    · rfl
  · have hzero : (3 : Nat) = 0 := hsafe.exclusive hin (hsafe.opened hopen)
    cases hzero

end Machine

end Turnstile
