/-
# One ticket after the other

However tasks and transactions are interleaved, what comes of it is what would have come of
doing it one ticket after the other: first what was done under the tickets that are done, in
the order in which they were, and then what was done so far under those with open
transactions.  Every ticket is answered as it was; the committed rows, with the id of the
next row, are those after the tickets that are done; and the tickets of one owner come in the
order in which they obtained its lock.

The invariant is `Machine.Serialized`.  An open transaction has to be known to stand, not
only on the present rows, but on all rows on which those of its owner are the same, since
others go on while it is open.
-/
import Turnstile.Proofs.Store.Conduct

namespace Turnstile

namespace Record

/-- The rows after what was done under some tickets has been done once more, one ticket after
the other. -/
def serial (h : Record) (r : Rows) (tickets : List Nat) : Rows :=
  tickets.foldl (fun r t => (h.alone t r).state.rows) r

/-- The answers if what was done under some tickets is done once more, one ticket after the
other. -/
def replies (h : Record) (r : Rows) : List Nat → List (List Response)
  | [] => []
  | t :: ts => (h.alone t r).result :: h.replies (h.alone t r).state.rows ts

/-- What was answered under a ticket. -/
def answers (h : Record) (ticket : Nat) : List Response :=
  .arrived ticket :: (h.deeds ticket).map Prod.snd

variable {h h' : Record} {r : Rows}

theorem serial_append (h : Record) (r : Rows) (xs ys : List Nat) :
    h.serial r (xs ++ ys) = h.serial (h.serial r xs) ys := List.foldl_append

theorem replies_append (h : Record) (r : Rows) (xs ys : List Nat) :
    h.replies r (xs ++ ys) = h.replies r xs ++ h.replies (h.serial r xs) ys := by
  induction xs generalizing r with
  | nil => rfl
  | cons x xs ih => exact congrArg (_ :: ·) (ih _)

/-- Tickets that have nothing new on record do the same once more. -/
theorem serial_congr {tickets : List Nat} (htask : ∀ t ∈ tickets, h'.task? t = h.task? t)
    (hdeeds : ∀ t ∈ tickets, h'.deeds t = h.deeds t) :
    h'.serial r tickets = h.serial r tickets ∧ h'.replies r tickets = h.replies r tickets := by
  induction tickets generalizing r with
  | nil => exact ⟨rfl, rfl⟩
  | cons t ts ih =>
    have halone : h'.alone t r = h.alone t r :=
      alone_congr (htask t List.mem_cons_self) (hdeeds t List.mem_cons_self)
    obtain ⟨hserial, hreplies⟩ := ih (r := (h.alone t r).state.rows)
      (fun t' ht' => htask t' (List.mem_cons_of_mem _ ht'))
      fun t' ht' => hdeeds t' (List.mem_cons_of_mem _ ht')
    rw [serial, List.foldl_cons, halone, replies, halone]
    exact ⟨hserial, congrArg (_ :: ·) hreplies⟩

/-- Tickets that leave the rows as they are can all be done on these. -/
theorem serial_of_idle {tickets : List Nat} (hechoes : ∀ t ∈ tickets, h.Echoes t r)
    (hidle : ∀ t ∈ tickets, (h.alone t r).state.rows = r) :
    h.serial r tickets = r ∧ h.replies r tickets = tickets.map h.answers := by
  induction tickets with
  | nil => exact ⟨rfl, rfl⟩
  | cons t ts ih =>
    obtain ⟨hserial, hreplies⟩ := ih (fun t' ht' => hechoes t' (List.mem_cons_of_mem _ ht'))
      fun t' ht' => hidle t' (List.mem_cons_of_mem _ ht')
    rw [serial, List.foldl_cons, replies, hidle t List.mem_cons_self,
      hechoes t List.mem_cons_self, hreplies]
    exact ⟨hserial, rfl⟩

theorem length_replies (h : Record) (r : Rows) (tickets : List Nat) :
    (h.replies r tickets).length = tickets.length := by
  induction tickets generalizing r with
  | nil => rfl
  | cons t ts ih => exact congrArg (· + 1) (ih _)

/-- If all tickets are answered as they were, each of them is. -/
theorem echoes_of_replies {before after : List Nat} {t : Nat}
    (hreplies : h.replies r (before ++ t :: after) = (before ++ t :: after).map h.answers) :
    h.Echoes t (h.serial r before) := by
  rw [replies_append, List.map_append] at hreplies
  have hrest := (List.append_inj hreplies (by rw [length_replies, List.length_map])).2
  exact (List.cons.inj hrest).1

end Record

namespace Machine

variable {h : Record} {m m' : Machine} {st : Step} {response : Response}

/-- While a ticket is inside, nobody else changes the rows of its owner. -/
theorem Guarded.rows_of_others (hg : m.Guarded) (hm : m.Taken st response m') {ticket : Nat}
    {owner : String} (hin : m.Inside ticket owner)
    (hdeed : ¬(st.ticket? = some ticket ∧ response.isPossible = true)) :
    m'.rows.of owner = m.rows.of owner := by
  cases hm with
  | impossible _ _ | refused _ _ _ | arrived _ _ | begun _ _ _ _ | gaveUp _ _ _ _ | listed _
  | txListed _ _ _ _ | placed _ _ _ _ _ _ | discarded _ _ _ _ _ => rfl
  | worked t task hwaiting hholds _ =>
    refine task.work_true_of m.rows fun howner => hdeed ⟨congrArg some ?_, rfl⟩
    exact hg.exclusive ⟨.inl ⟨task, hwaiting, howner.symm⟩, hholds⟩ hin
  | committed t tx hopen =>
    have hne : owner ≠ tx.owner := fun howner =>
      hdeed ⟨congrArg some (hg.exclusive (howner ▸ hg.inside_of_opened hopen) hin), rfl⟩
    change (m.rows.publish tx).of owner = m.rows.of owner
    rw [Rows.of_publish, Function.update_of_ne hne]

/-- A step after which no ticket is done leaves the rows as they are. -/
theorem Taken.rows_eq (hm : m.Taken st response m')
    (hdone : Record.completes? (st, response) = none) : m'.rows = m.rows := by
  cases hm with
  | impossible _ _ | refused _ _ _ | arrived _ _ | begun _ _ _ _ | gaveUp _ _ _ _ | listed _
  | txListed _ _ _ _ | placed _ _ _ _ _ _ | discarded _ _ _ _ _ => rfl
  | worked t task _ _ hopens =>
    rw [Record.completes?_enter (Task.work_ne_opened hopens true m.rows)] at hdone
    cases hdone
  | committed t tx _ => cases hdone

/-- Nothing more is done under a ticket that is done. -/
theorem Recorded.snoc_of_completed (hrec : Recorded h m) (hm : m.Taken st response m')
    {ticket : Nat} (hdone : ticket ∈ h.completed) :
    Record.task? (h ++ [(st, response)]) ticket = h.task? ticket ∧
      Record.deeds (h ++ [(st, response)]) ticket = h.deeds ticket := by
  have hacquired := hrec.mem_acquired_of_completed hdone
  refine Record.snoc_of_other (Record.begins?_eq_none fun hnew => ?_) fun hdeed => ?_
  · have htask := hrec.isSome_task?_of_acquired hacquired
    rw [(hm.nextTicket_le.2 ticket hnew).1, hrec.unborn m.nextTicket (le_refl _)] at htask
    cases htask
  · have hpossible : response ≠ .impossible := by
      rintro rfl
      cases hdeed.2
    obtain ⟨owner, ⟨task, hwaiting, -⟩ | ⟨tx, hopen, -⟩, -⟩ :=
      hrec.guarded.uses_of_taken hm hdeed.1 hpossible
    · exact hrec.not_mem_acquired_of_waiting hwaiting hacquired
    · have hpending := hrec.mem_pending_iff.2 ⟨tx, hopen⟩
      exact of_decide_eq_true (List.mem_filter.1 hpending).2 hdone

/-- The rows, and all answers under tickets that are done, are those of doing them once more,
one after the other; and an open transaction stands on all rows that agree with the present
ones on those of its owner. -/
structure Serialized (start : Rows) (h : Record) (m : Machine) : Prop extends InOrder h m where
  rows : m.rows = h.serial start h.completed
  replies : h.replies start h.completed = h.completed.map h.answers
  opened : ∀ ticket tx, m.opened.get? ticket = some tx →
    ∀ r : Rows, r.of tx.owner = m.rows.of tx.owner → Stands h m ticket r

namespace Serialized

variable {start : Rows}

/-- Whoever is inside stands on all rows that agree with the present ones on those of its
owner. -/
theorem stands (hser : Serialized start h m) {ticket : Nat} {owner : String}
    (hin : m.Inside ticket owner) {r : Rows} (hr : r.of owner = m.rows.of owner) :
    Stands h m ticket r := by
  obtain ⟨⟨task, hwaiting, -⟩ | ⟨tx, hopen, rfl⟩, -⟩ := hin
  · exact hser.stands_of_waiting hwaiting r
  · exact hser.opened ticket tx hopen r hr

/-- A ticket whose transaction is open after one of its deeds stands on all rows that agree
with the present ones on those of its owner. -/
theorem stands_deed (hser : Serialized start h m) (hm : m.Taken st response m') {ticket : Nat}
    (hticket : st.ticket? = some ticket) (hpossible : response.isPossible = true)
    {tx : Transaction} (hopen : m'.opened.get? ticket = some tx) {r : Rows}
    (hr : r.of tx.owner = m'.rows.of tx.owner) : Stands (h ++ [(st, response)]) m' ticket r := by
  cases hm with
  | impossible _ _ => cases hpossible
  | refused _ _ _ | arrived _ _ | listed _ => cases hticket
  | worked t _ hwaiting _ _ | gaveUp t _ hwaiting _ =>
    obtain rfl : t = ticket := Option.some.inj hticket
    exact absurd (hser.guarded.opened_of_waiting hwaiting)
      (Option.ne_none_iff_exists'.2 ⟨tx, hopen⟩)
  | begun t owner hwaiting _ =>
    obtain rfl : t = ticket := Option.some.inj hticket
    rw [keep, Register.get?_insert_self] at hopen
    obtain rfl := Option.some.inj hopen
    exact (hser.stands_of_waiting hwaiting r).begun hwaiting hr
  | txListed t tx' hopen' owner =>
    obtain rfl : t = ticket := Option.some.inj hticket
    obtain rfl := Option.some.inj (hopen'.symm.trans hopen)
    exact (hser.opened t tx' hopen' r hr).txListed hopen' owner
  | placed t tx' hopen' id owner order =>
    obtain rfl : t = ticket := Option.some.inj hticket
    rw [Register.get?_insert_self] at hopen
    obtain rfl := Option.some.inj hopen
    rw [Transaction.place_owner] at hr
    exact (hser.opened t tx' hopen' r hr).placed hopen' id owner order
  | committed t _ _ =>
    obtain rfl : t = ticket := Option.some.inj hticket
    rw [close, Register.get?_erase, if_pos rfl] at hopen
    cases hopen
  | discarded t _ _ st hst =>
    obtain rfl : t = ticket := by rcases hst with rfl | rfl <;> exact Option.some.inj hticket
    rw [close, Register.get?_erase, if_pos rfl] at hopen
    cases hopen

/-- What was open stays open and stands where it stood, and so does what is opened. -/
theorem opened_taken (hser : Serialized start h m) (hm : m.Taken st response m') {ticket : Nat}
    {tx : Transaction} (hopen : m'.opened.get? ticket = some tx) {r : Rows}
    (hr : r.of tx.owner = m'.rows.of tx.owner) :
    Stands (h ++ [(st, response)]) m' ticket r := by
  by_cases hdeed : st.ticket? = some ticket ∧ response.isPossible = true
  · exact hser.stands_deed hm hdeed.1 hdeed.2 hopen hr
  · -- somebody else goes on, and so leaves the rows of this owner alone
    have hnew : response ≠ .arrived ticket := by
      rintro rfl
      cases hm with
      | arrived task _ =>
        exact absurd hser.guarded.opened_nextTicket (Option.ne_none_iff_exists'.2 ⟨tx, hopen⟩)
    have hopen' := (hm.other hnew hdeed).2.symm.trans hopen
    rw [hser.guarded.rows_of_others hm (hser.guarded.inside_of_opened hopen') hdeed] at hr
    exact (hser.opened ticket tx hopen' r hr).other hm hnew hdeed

theorem taken (hser : Serialized start h m) (hm : m.Taken st response m') :
    Serialized start (h ++ [(st, response)]) m' := by
  obtain ⟨hserial, hreplies⟩ := Record.serial_congr (r := start)
    (fun t ht => (hser.snoc_of_completed hm ht).1) fun t ht => (hser.snoc_of_completed hm ht).2
  have hanswers : h.completed.map (Record.answers (h ++ [(st, response)])) =
      h.completed.map h.answers := by
    refine List.map_congr_left fun t ht => ?_
    rw [Record.answers, (hser.snoc_of_completed hm ht).2]
    rfl
  have hord := hser.toInOrder.taken hm
  -- the serial execution grows only when a ticket is done
  cases hdone : Record.completes? (st, response) with
  | none =>
    have hcompleted := Record.completed_snoc_of_none (h := h) hdone
    refine ⟨hord, ?_, ?_, fun t tx hopen r hr => hser.opened_taken hm hopen hr⟩
    · rw [hcompleted, hserial, hm.rows_eq hdone, hser.rows]
    · rw [hcompleted, hreplies, hanswers, hser.replies]
  | some ticket =>
    have hcompleted := Record.completed_snoc_of_some (h := h) hdone
    -- the ticket is inside, so it stands on the present rows, which are those before it
    obtain ⟨hechoes, hrows⟩ : Record.Echoes (h ++ [(st, response)]) ticket m.rows ∧
        (Record.alone (h ++ [(st, response)]) ticket m.rows).state.rows = m'.rows := by
      obtain ⟨hreleases, hstays⟩ := Record.completes?_eq_some_iff.1 hdone
      obtain ⟨hticket, hpossible⟩ := Step.ticket?_of_releases? hreleases
      obtain ⟨owner, hin⟩ := hser.guarded.inside_of_taken hm hticket hstays hpossible
      exact (hser.stands hin rfl).finish hm hdone
    rw [hser.rows, ← hserial] at hechoes hrows
    refine ⟨hord, ?_, ?_, fun t tx hopen r hr => hser.opened_taken hm hopen hr⟩
    · rw [hcompleted, Record.serial_append, ← hrows]
      rfl
    · rw [hcompleted, Record.replies_append, hreplies, hser.replies, List.map_append, hanswers]
      exact congrArg (h.completed.map h.answers ++ [·]) hechoes

end Serialized

theorem serialized_ofSettings (settings : StoreSettings) :
    Serialized (ofSettings settings).rows [] (ofSettings settings) :=
  ⟨inOrder_ofSettings settings, rfl, rfl, nofun⟩

theorem reached_serialized (settings : StoreSettings) (ss : List Step) :
    Serialized (ofSettings settings).rows (record (ofSettings settings) ss) (reached settings ss) :=
  record_induction (serialized_ofSettings settings) (fun hser hm => hser.taken hm) ss

/-! ## All entries of a record -/

/-- What an entry of a record can be. -/
inductive Accounted (h : Record) : Step × Response → Prop where
  /-- Nothing was done. -/
  | impossible (st : Step) : Accounted h (st, .impossible)
  /-- A task was refused, whatever the rows were. -/
  | refused (task : Task) (e : Error) (hrefusal : task.refusal? = some e) :
    Accounted h (.arrive task, .refused e)
  /-- A task began under a ticket. -/
  | arrived (task : Task) (ticket : Nat) (htask : h.task? ticket = some task) :
    Accounted h (.arrive task, .arrived ticket)
  /-- Committed rows were listed. -/
  | listed (owner : String) (items : List Item) : Accounted h (.list owner, .listed (.ok items))
  /-- Something was done under a ticket that has obtained its lock. -/
  | deed (ticket : Nat) (e : Step × Response) (hacquired : ticket ∈ h.acquired)
    (he : e ∈ h.deeds ticket) : Accounted h e
  /-- A task gave up, and has not obtained its lock. -/
  | gaveUp (ticket : Nat) (task : Task) (htask : h.task? ticket = some task)
    (hnever : ticket ∉ h.acquired) :
    Accounted h (.giveUp ticket, .ended (.error (.storage (.lockTimeout task.owner))))

/-- What is on record of a ticket that has deeds. -/
theorem Recorded.accounted_of_deed (hrec : Recorded h m) {ticket : Nat} {e : Step × Response}
    (he : e ∈ h.deeds ticket) : Accounted h e := by
  by_cases hacquired : ticket ∈ h.acquired
  · exact .deed ticket e hacquired he
  · have hlife := hrec.life ticket
    rw [Record.mem_acquired_iff] at hacquired
    generalize htask : h.task? ticket = task?, hdeeds : h.deeds ticket = deeds,
      m.waiting.get? ticket = waiting?, m.opened.get? ticket = opened? at hlife
    rw [hdeeds] at he hacquired
    cases hlife with
    | unborn | waiting _ _ => exact absurd he List.not_mem_nil
    | gaveUp task =>
      obtain rfl := List.mem_singleton.1 he
      refine .gaveUp ticket task htask ?_
      rw [Record.mem_acquired_iff, hdeeds]
      exact hacquired
    | worked _ _ _ _ _ | opened _ _ _ _ _ | closed _ _ _ _ _ =>
      exact absurd ⟨_, List.mem_cons_self, rfl⟩ hacquired

/-- Entries that are not deeds of tickets are accounted for from the moment they are made. -/
theorem Taken.accounted (hm : m.Taken st response m') (hrec : Recorded h m)
    (hticket : st.ticket? = none) : Accounted (h ++ [(st, response)]) (st, response) := by
  cases hm with
  | impossible st _ => exact .impossible st
  | refused task e hrefusal => exact .refused task e hrefusal
  | arrived task hrefusal =>
    have hlife := hrec.life_arrive task hrefusal
    exact .arrived task _ hlife.of_waiting.1
  | listed owner => exact .listed owner _
  | discarded _ _ _ st hst => rcases hst with rfl | rfl <;> cases hticket
  | _ => cases hticket

/-- An entry without a ticket stays accounted for. -/
theorem Accounted.snoc {e : Step × Response} (he : Accounted h e) (hticket : e.1.ticket? = none)
    (e' : Step × Response) : Accounted (h ++ [e']) e := by
  cases he with
  | impossible st => exact .impossible st
  | refused task e hrefusal => exact .refused task e hrefusal
  | arrived task ticket htask =>
    refine .arrived task ticket ?_
    rw [Record.task?_snoc, htask]
    rfl
  | listed owner items => exact .listed owner items
  | deed ticket _ _ he =>
    rw [(Record.mem_deeds_iff.1 he).2.1] at hticket
    cases hticket
  | gaveUp _ _ _ _ => cases hticket

/-- Every entry of the record of a run is accounted for. -/
theorem record_accounted (settings : StoreSettings) (ss : List Step) :
    ∀ e ∈ record (ofSettings settings) ss, Accounted (record (ofSettings settings) ss) e := by
  let Q : Record → Machine → Prop := fun h m =>
    Recorded h m ∧ ∀ e ∈ h, e.1.ticket? = none → Accounted h e
  have hsteady : Q (record (ofSettings settings) ss) (reached settings ss) := by
    refine record_induction (Q := Q) ⟨recorded_ofSettings settings, List.forall_mem_nil _⟩
      (fun {h m' st response m''} hQ hm => ⟨hQ.1.taken hm, fun e he hticket => ?_⟩) ss
    rcases List.mem_append.1 he with he | he
    · exact (hQ.2 e he hticket).snoc hticket _
    · obtain rfl := List.mem_singleton.1 he
      exact hm.accounted hQ.1 hticket
  intro e he
  cases hticket : e.1.ticket? with
  | none => exact hsteady.2 e he hticket
  | some ticket =>
    cases hpossible : e.2.isPossible with
    | true => exact hsteady.1.accounted_of_deed (Record.mem_deeds_iff.2 ⟨he, hticket, hpossible⟩)
    | false =>
      obtain ⟨st, response⟩ := e
      cases response <;> first | exact .impossible st | cases hpossible

/-! ## Serializability -/

/-- A run comes to what doing it one ticket after the other on some rows would have come to. -/
structure Serializable (start : Rows) (h : Record) (m : Machine) : Prop where
  /-- Every ticket obtains its lock once at most, and has a task. -/
  once : h.acquired.Nodup ∧ ∀ ticket ∈ h.acquired, (h.task? ticket).isSome = true
  /-- The tickets that have obtained their locks are those that are done and those that are
  not. -/
  complete : (h.completed ++ h.pending).Perm h.acquired
  /-- Of one owner, they come in the order in which they obtained the lock. -/
  order : ∀ owner, h.ofOwner owner (h.completed ++ h.pending) = h.ofOwner owner h.acquired
  /-- Doing it one ticket after the other is answered as it was. -/
  replies : h.replies start (h.completed ++ h.pending) = (h.completed ++ h.pending).map h.answers
  /-- The committed rows are those after the tickets that are done. -/
  rows : m.rows = h.serial start h.completed
  /-- Open transactions contribute nothing to the rows. -/
  pending : h.serial m.rows h.pending = m.rows
  /-- Neither do transactions that are closed without a commit. -/
  discarded : ∀ ticket owner, h.task? ticket = some (.begin owner) →
    (∀ e ∈ h.deeds ticket, e.1 ≠ .commit ticket) → ∀ r, (h.alone ticket r).state.rows = r
  /-- No ticket contributes anything to the rows of an owner that its task is not about. -/
  others : ∀ ticket task, h.task? ticket = some task → ∀ r owner, owner ≠ task.owner →
    (h.alone ticket r).state.rows.of owner = r.of owner
  /-- All that was answered otherwise, tasks that gave up included, depended on no rows, but
  for lists of committed rows. -/
  accounted : ∀ e ∈ h, Accounted h e
  /-- A move that was made call by call comes to what it comes to if it is made at once. -/
  moves : ∀ before ticket after, h.completed = before ++ ticket :: after → ∀ mv result,
    h.Conducts ticket mv result →
    let r := h.serial start before
    let o := (steps [.arrive (.move mv), .enter ticket]).run { rows := r, nextTicket := ticket }
    o.result = [.arrived ticket, .ended (result.map Reply.items)] ∧
      o.state.rows = (h.alone ticket r).state.rows

namespace Serialized

variable {start : Rows}

/-- A ticket that is done is answered as it was if it is done after those before it. -/
theorem echoes (hser : Serialized start h m) {before after : List Nat} {ticket : Nat}
    (hsplit : h.completed = before ++ ticket :: after) :
    h.Echoes ticket (h.serial start before) := by
  have hreplies := hser.replies
  rw [hsplit] at hreplies
  exact Record.echoes_of_replies hreplies

/-- Open transactions are answered as they were and leave the rows as they are. -/
theorem pending_idle (hser : Serialized start h m) :
    h.serial m.rows h.pending = m.rows ∧ h.replies m.rows h.pending = h.pending.map h.answers := by
  have hstands : ∀ t ∈ h.pending, Stands h m t m.rows := fun t ht => by
    obtain ⟨tx, hopen⟩ := hser.mem_pending_iff.1 ht
    exact hser.opened t tx hopen m.rows rfl
  exact Record.serial_of_idle (fun t ht => (hstands t ht).echoes) fun t ht => (hstands t ht).rows

/-- The tickets that are done and those that are not are all that have obtained their locks. -/
theorem perm_acquired (hser : Serialized start h m) :
    (h.completed ++ h.pending).Perm h.acquired := by
  -- neither list has repetitions, so it is enough to compare their elements
  have hnodup : (h.completed ++ h.pending).Nodup :=
    List.nodup_append'.2 ⟨hser.completed_nodup, hser.acquired_nodup.filter _,
      fun t hdone ht => of_decide_eq_true (List.mem_filter.1 ht).2 hdone⟩
  refine (List.perm_ext_iff_of_nodup hnodup hser.acquired_nodup).2 fun t => ?_
  rw [List.mem_append]
  constructor
  · rintro (hdone | ht)
    · exact hser.mem_acquired_of_completed hdone
    · exact List.mem_of_mem_filter ht
  · intro ht
    by_cases hdone : t ∈ h.completed
    · exact .inl hdone
    · exact .inr (List.mem_filter.2 ⟨ht, decide_eq_true hdone⟩)

theorem serializable (hser : Serialized start h m) (haccounted : ∀ e ∈ h, Accounted h e) :
    Serializable start h m where
  once := ⟨hser.acquired_nodup, fun _ => hser.isSome_task?_of_acquired⟩
  complete := hser.perm_acquired
  order owner := by rw [Record.ofOwner_append, hser.order]
  replies := by
    rw [Record.replies_append, hser.replies, ← hser.rows, hser.pending_idle.2, List.map_append]
  rows := hser.rows
  pending := hser.pending_idle.1
  discarded _ _ htask hdiscarded := Record.alone_rows_of_discarded htask hdiscarded
  others _ _ htask r _ hother := Record.alone_rows_of htask r hother
  accounted := haccounted
  moves _ _ _ hsplit _ _ hconducts := alone_of_conducts hconducts (hser.echoes hsplit)

end Serialized

/-- What was done under a ticket that is done is not added to later. -/
theorem Recorded.append_of_completed (hrec : Recorded h m) (ss : List Step) {ticket : Nat}
    (hdone : ticket ∈ h.completed) :
    Record.task? (h ++ record m ss) ticket = h.task? ticket ∧
      Record.deeds (h ++ record m ss) ticket = h.deeds ticket := by
  let Q : Record → Machine → Prop := fun h' m' => Recorded (h ++ h') m' ∧
    Record.task? (h ++ h') ticket = h.task? ticket ∧
      Record.deeds (h ++ h') ticket = h.deeds ticket
  have hstart : Q [] m := by
    refine ⟨?_, ?_, ?_⟩ <;> rw [List.append_nil]
    exact hrec
  refine (record_induction (Q := Q) hstart (fun {h' m' st response m''} hQ hm => ?_) ss).2
  obtain ⟨hrec', htask, hdeeds⟩ := hQ
  have hdone' : ticket ∈ Record.completed (h ++ h') := by
    rw [Record.completed, List.filterMap_append]
    exact List.mem_append_left _ hdone
  obtain ⟨htask', hdeeds'⟩ := hrec'.snoc_of_completed hm hdone'
  change Recorded (h ++ (h' ++ [(st, response)])) m'' ∧ _ ∧ _
  rw [← List.append_assoc]
  exact ⟨hrec'.taken hm, htask'.trans htask, hdeeds'.trans hdeeds⟩

/-- The answers and the rows of every run are those of a serial execution; committed rows that
are listed are those after the tickets that are done by then; and these stay the first of the
serial execution, with the same steps, whatever happens later. -/
theorem reached_serializable (settings : StoreSettings) (ss : List Step) :
    let start : Rows := { capacity := settings.maxItems }
    let h := record (ofSettings settings) ss
    Serializable start h (reached settings ss) ∧
      (∀ owner, record (ofSettings settings) (ss ++ [.list owner]) =
        h ++ [(.list owner, .listed (.ok ((h.serial start h.completed).list owner)))]) ∧
      ∀ ss', let h' := record (ofSettings settings) (ss ++ ss')
        h.completed <+: h'.completed ∧
          ∀ ticket ∈ h.completed, ∀ r, h'.alone ticket r = h.alone ticket r := by
  intro start h
  have hser := reached_serialized settings ss
  refine ⟨hser.serializable (record_accounted settings ss), fun owner => ?_, fun ss' => ?_⟩
  · have hlisted : ((step (.list owner)).run (reached settings ss)).result =
        .listed (.ok ((reached settings ss).rows.list owner)) := rfl
    rw [record_snoc]
    change h ++ [(_, ((step (.list owner)).run (reached settings ss)).result)] = _
    rw [hlisted, hser.rows]
    rfl
  · intro h'
    have happend : h' = h ++ record (reached settings ss) ss' := record_append _ _ _
    refine ⟨?_, fun ticket hdone r => ?_⟩
    · rw [happend, Record.completed, Record.completed, List.filterMap_append]
      exact List.prefix_append _ _
    · obtain ⟨htask, hdeeds⟩ := hser.append_of_completed ss' hdone
      rw [happend]
      exact Record.alone_congr htask hdeeds

/-- A task waits for an open transaction in which a row is moved away, and then takes its
place; another one has given up meanwhile.  In the end the row that was moved is removed. -/
theorem reached_serializable_after_commit :
    let ss : List Step := [.arrive (.insert "ann" "a" 1 ⟨1⟩), .enter 0, .arrive (.begin "ann"),
      .enter 1, .arrive (.insert "ann" "b" 1 ⟨2⟩), .arrive (.delete "ann" 1),
      .txPlace 1 1 "ann" 5, .list "ann", .giveUp 3, .commit 1, .enter 2,
      .arrive (.delete "ann" 1), .enter 4]
    let h := record (ofSettings {}) ss
    h.completed = [0, 1, 2, 4] ∧ h.serial { capacity := 1000 } [0, 1, 2, 4] = (reached {} ss).rows ∧
      (h.serial { capacity := 1000 } [0, 1, 2]).of "ann" =
        [⟨1, ⟨1⟩, "ann", "a", 5⟩, ⟨2, ⟨2⟩, "ann", "b", 1⟩] ∧
      (reached {} ss).rows.of "ann" = [⟨2, ⟨2⟩, "ann", "b", 1⟩] := by
  intro ss h
  have hdone : h.completed = [0, 1, 2, 4] := by decide +kernel
  have hbefore : (h.serial { capacity := 1000 } [0, 1, 2]).of "ann" =
      [⟨1, ⟨1⟩, "ann", "a", 5⟩, ⟨2, ⟨2⟩, "ann", "b", 1⟩] := by decide +kernel
  have hann : (reached {} ss).rows.of "ann" = [⟨2, ⟨2⟩, "ann", "b", 1⟩] := by decide +kernel
  have hrows : (reached {} ss).rows = h.serial { capacity := 1000 } h.completed :=
    (reached_serializable {} ss).1.rows
  refine ⟨hdone, ?_, hbefore, hann⟩
  rw [hrows, hdone]

end Machine

end Turnstile
