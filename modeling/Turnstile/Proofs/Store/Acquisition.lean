/-
# The order in which locks are obtained

A ticket obtains its lock once, and a ticket of an owner obtains it only after the one before
it is done.  So, of the tickets of one owner, those that are done and then the one that is
not are in the order in which they obtained the lock, and this although the tickets of
different owners are done in any order.
-/
import Turnstile.Proofs.Store.Record

namespace Turnstile

theorem nodup_snoc {l : List Nat} (h : l.Nodup) {a : Nat} (ha : a ∉ l) : (l ++ [a]).Nodup := by
  rw [← List.concat_eq_append]
  exact h.concat ha

/-- A list without repetitions, one of its elements first. -/
theorem filter_eq_singleton_append {l : List Nat} {p : Nat → Bool} (h : l.Nodup) {a : Nat}
    (ha : a ∈ l) (honly : p a = true → ∀ b ∈ l, p b = true → b = a) :
    l.filter p = [a].filter p ++ (l.filter fun b => decide (b ≠ a)).filter p := by
  cases hpa : p a with
  | true =>
    have hrest : (l.filter fun b => decide (b ≠ a)).filter p = [] := by
      refine List.filter_eq_nil_iff.2 fun b hb hpb => ?_
      obtain ⟨hb, hne⟩ := List.mem_filter.1 hb
      exact of_decide_eq_true hne (honly hpa b hb hpb)
    rw [filter_eq_singleton h ha hpa (honly hpa), hrest, List.append_nil, List.filter_cons, hpa]
    rfl
  | false =>
    have hsame : (l.filter fun b => decide (b ≠ a)).filter p = l.filter p := by
      rw [List.filter_filter]
      refine List.filter_congr fun b _ => ?_
      by_cases heq : b = a
      · rw [heq, hpa]
        rfl
      · rw [decide_eq_true heq, Bool.and_true]
    rw [hsame, List.filter_cons, hpa]
    rfl

namespace Record

variable {h : Record} {e : Step × Response} {ticket : Nat}

theorem ofOwner_append (h : Record) (owner : String) (xs ys : List Nat) :
    h.ofOwner owner (xs ++ ys) = h.ofOwner owner xs ++ h.ofOwner owner ys := List.filter_append ..

/-- The owner of a ticket that has a task is known. -/
theorem ofOwner_snoc {owner : String} {tickets : List Nat}
    (htasks : ∀ t ∈ tickets, (h.task? t).isSome = true) :
    ofOwner (h ++ [e]) owner tickets = h.ofOwner owner tickets := by
  refine List.filter_congr fun t ht => ?_
  rw [task?_snoc, Option.or_of_isSome (htasks t ht)]

theorem ofOwner_singleton_snoc {owner : String} (htask : (h.task? ticket).isSome = true) :
    ofOwner (h ++ [e]) owner [ticket] = h.ofOwner owner [ticket] :=
  ofOwner_snoc fun _ ht => List.mem_singleton.1 ht ▸ htask

theorem ofOwner_singleton {owner : String} {task : Task} (htask : h.task? ticket = some task)
    (howner : task.owner ≠ owner) : h.ofOwner owner [ticket] = [] := by
  simp [ofOwner, htask, howner]

theorem pending_snoc_work (hacquires : acquires? e = some ticket)
    (hcompletes : completes? e = some ticket) (hnew : ticket ∉ h.acquired) :
    pending (h ++ [e]) = h.pending := by
  rw [pending, acquired_snoc_of_some hacquires, completed_snoc_of_some hcompletes,
    List.filter_append]
  have hself : [ticket].filter (fun t => decide (t ∉ h.completed ++ [ticket])) = [] := by simp
  rw [hself, List.append_nil]
  refine List.filter_congr fun t ht => ?_
  have hne : t ≠ ticket := fun heq => hnew (heq ▸ ht)
  simp [hne]

theorem pending_snoc_open (hacquires : acquires? e = some ticket) (hcompletes : completes? e = none)
    (hnew : ticket ∉ h.completed) : pending (h ++ [e]) = h.pending ++ [ticket] := by
  rw [pending, acquired_snoc_of_some hacquires, completed_snoc_of_none hcompletes,
    List.filter_append]
  exact congrArg (h.pending ++ ·) (List.filter_eq_self.2 fun t ht =>
    decide_eq_true (List.mem_singleton.1 ht ▸ hnew))

theorem pending_snoc_close (hacquires : acquires? e = none)
    (hcompletes : completes? e = some ticket) :
    pending (h ++ [e]) = h.pending.filter fun t => decide (t ≠ ticket) := by
  rw [pending, acquired_snoc_of_none hacquires, completed_snoc_of_some hcompletes, pending,
    List.filter_filter]
  refine List.filter_congr fun t _ => ?_
  simp [and_comm]

end Record

namespace Machine

variable {h : Record} {m m' : Machine} {st : Step} {response : Response}

/-- What a step says of locks: nothing; or a ticket that waited has obtained its lock, and is
done or not; or a ticket with an open transaction is done. -/
theorem Taken.marks (hm : m.Taken st response m') :
    (Record.acquires? (st, response) = none ∧ Record.completes? (st, response) = none) ∨
    (∃ ticket task, m.waiting.get? ticket = some task ∧ m.locks.holds ticket = true ∧
      Record.acquires? (st, response) = some ticket ∧
        (Record.completes? (st, response) = some ticket ∨
          Record.completes? (st, response) = none)) ∨
    ∃ ticket tx, m.opened.get? ticket = some tx ∧
      Record.acquires? (st, response) = none ∧ Record.completes? (st, response) = some ticket := by
  cases hm with
  | impossible st _ => cases st <;> exact .inl ⟨rfl, rfl⟩
  | refused _ _ _ | arrived _ _ | gaveUp _ _ _ _ | listed _ | txListed _ _ _ _
  | placed _ _ _ _ _ _ => exact .inl ⟨rfl, rfl⟩
  | worked ticket task hwaiting hholds hopens =>
    exact .inr (.inl ⟨ticket, task, hwaiting, hholds, rfl,
      .inl (Record.completes?_enter (Task.work_ne_opened hopens true m.rows))⟩)
  | begun ticket owner hwaiting hholds =>
    exact .inr (.inl ⟨ticket, _, hwaiting, hholds, rfl, .inr rfl⟩)
  | committed ticket tx hopen => exact .inr (.inr ⟨ticket, tx, hopen, rfl, rfl⟩)
  | discarded ticket tx hopen st hst =>
    rcases hst with rfl | rfl <;> exact .inr (.inr ⟨ticket, tx, hopen, rfl, rfl⟩)

/-- No ticket obtains its lock or is done twice, and the tickets of an owner that are done
have obtained their locks in that order, before the one that is not. -/
structure InOrder (h : Record) (m : Machine) : Prop extends Recorded h m where
  acquired_nodup : h.acquired.Nodup
  completed_nodup : h.completed.Nodup
  order : ∀ owner,
    h.ofOwner owner h.acquired = h.ofOwner owner h.completed ++ h.ofOwner owner h.pending

namespace Recorded

variable {ticket : Nat} {owner : String}

/-- If a ticket is inside, no other one of its owner has obtained the lock and is not done. -/
theorem eq_of_mem_pending (hrec : Recorded h m) (hin : m.Inside ticket owner) {ticket' : Nat}
    (hpending : ticket' ∈ h.ofOwner owner h.pending) : ticket' = ticket := by
  obtain ⟨hpending, howner⟩ := List.mem_filter.1 hpending
  obtain ⟨tx, hopen⟩ := hrec.mem_pending_iff.1 hpending
  have hin' := hrec.guarded.inside_of_opened hopen
  rw [beq_iff_eq, hrec.owner_of_uses hin'.1] at howner
  rw [Option.some.inj howner] at hin'
  exact hrec.guarded.exclusive hin' hin

theorem ofOwner_acquired_snoc (hrec : Recorded h m) (e : Step × Response) :
    Record.ofOwner (h ++ [e]) owner h.acquired = h.ofOwner owner h.acquired :=
  Record.ofOwner_snoc fun _ => hrec.isSome_task?_of_acquired

theorem ofOwner_completed_snoc (hrec : Recorded h m) (e : Step × Response) :
    Record.ofOwner (h ++ [e]) owner h.completed = h.ofOwner owner h.completed :=
  Record.ofOwner_snoc fun _ hdone =>
    hrec.isSome_task?_of_acquired (hrec.mem_acquired_of_completed hdone)

theorem ofOwner_pending_snoc (hrec : Recorded h m) (e : Step × Response) :
    Record.ofOwner (h ++ [e]) owner h.pending = h.ofOwner owner h.pending :=
  Record.ofOwner_snoc fun _ hpending =>
    hrec.isSome_task?_of_acquired (List.mem_of_mem_filter hpending)

end Recorded

namespace InOrder

variable {ticket : Nat}

/-- A ticket obtains its lock and is done. -/
theorem work (hord : InOrder h m) {e : Step × Response} (hrec' : Recorded (h ++ [e]) m')
    {task : Task} (hwaiting : m.waiting.get? ticket = some task)
    (hholds : m.locks.holds ticket = true) (hacquires : Record.acquires? e = some ticket)
    (hcompletes : Record.completes? e = some ticket) : InOrder (h ++ [e]) m' := by
  have hnew := hord.not_mem_acquired_of_waiting hwaiting
  have hnew' : ticket ∉ h.completed := fun hdone => hnew (hord.mem_acquired_of_completed hdone)
  have htask : h.task? ticket = some task := (hwaiting ▸ hord.life ticket).of_waiting.1
  refine ⟨hrec', ?_, ?_, fun owner => ?_⟩
  · rw [Record.acquired_snoc_of_some hacquires]
    exact nodup_snoc hord.acquired_nodup hnew
  · rw [Record.completed_snoc_of_some hcompletes]
    exact nodup_snoc hord.completed_nodup hnew'
  · rw [Record.pending_snoc_work hacquires hcompletes hnew,
      Record.acquired_snoc_of_some hacquires, Record.completed_snoc_of_some hcompletes,
      Record.ofOwner_append, Record.ofOwner_append, hord.ofOwner_acquired_snoc,
      hord.ofOwner_completed_snoc, hord.ofOwner_pending_snoc,
      Record.ofOwner_singleton_snoc (htask ▸ rfl), hord.order, List.append_assoc,
      List.append_assoc]
    refine congrArg (h.ofOwner owner h.completed ++ ·) ?_
    by_cases howner : task.owner = owner
    · -- nobody else of this owner is under way
      have hin : m.Inside ticket owner := ⟨.inl ⟨task, hwaiting, howner⟩, hholds⟩
      have hnone : h.ofOwner owner h.pending = [] :=
        List.eq_nil_iff_forall_not_mem.2 fun t ht =>
          hnew (hord.eq_of_mem_pending hin ht ▸
            List.mem_of_mem_filter (List.mem_of_mem_filter ht))
      rw [hnone, List.nil_append, List.append_nil]
    · rw [Record.ofOwner_singleton htask howner, List.append_nil, List.nil_append]

/-- A ticket obtains its lock and opens a transaction. -/
theorem open_ (hord : InOrder h m) {e : Step × Response} (hrec' : Recorded (h ++ [e]) m')
    {task : Task} (hwaiting : m.waiting.get? ticket = some task)
    (hacquires : Record.acquires? e = some ticket)
    (hcompletes : Record.completes? e = none) : InOrder (h ++ [e]) m' := by
  have hnew := hord.not_mem_acquired_of_waiting hwaiting
  have hnew' : ticket ∉ h.completed := fun hdone => hnew (hord.mem_acquired_of_completed hdone)
  have htask : h.task? ticket = some task := (hwaiting ▸ hord.life ticket).of_waiting.1
  have hcompleted := Record.completed_snoc_of_none (h := h) hcompletes
  refine ⟨hrec', ?_, hcompleted ▸ hord.completed_nodup, fun owner => ?_⟩
  · rw [Record.acquired_snoc_of_some hacquires]
    exact nodup_snoc hord.acquired_nodup hnew
  · rw [Record.pending_snoc_open hacquires hcompletes hnew',
      Record.acquired_snoc_of_some hacquires, hcompleted, Record.ofOwner_append,
      Record.ofOwner_append, hord.ofOwner_acquired_snoc, hord.ofOwner_completed_snoc,
      hord.ofOwner_pending_snoc, Record.ofOwner_singleton_snoc (htask ▸ rfl), hord.order,
      List.append_assoc]

/-- A ticket with an open transaction is done. -/
theorem close (hord : InOrder h m) {e : Step × Response} (hrec' : Recorded (h ++ [e]) m')
    {tx : Transaction} (hopen : m.opened.get? ticket = some tx)
    (hacquires : Record.acquires? e = none) (hcompletes : Record.completes? e = some ticket) :
    InOrder (h ++ [e]) m' := by
  have hpending := hord.mem_pending_iff.2 ⟨tx, hopen⟩
  have hacquired := Record.acquired_snoc_of_none (h := h) hacquires
  have hnew : ticket ∉ h.completed := of_decide_eq_true (List.mem_filter.1 hpending).2
  have hpendings : ∀ t ∈ h.pending, (h.task? t).isSome = true :=
    fun t ht => hord.isSome_task?_of_acquired (List.mem_of_mem_filter ht)
  have hothers : ∀ t ∈ h.pending.filter (fun t => decide (t ≠ ticket)),
      (h.task? t).isSome = true := fun t ht => hpendings t (List.mem_of_mem_filter ht)
  refine ⟨hrec', hacquired ▸ hord.acquired_nodup, ?_, fun owner => ?_⟩
  · rw [Record.completed_snoc_of_some hcompletes]
    exact nodup_snoc hord.completed_nodup hnew
  · rw [Record.pending_snoc_close hacquires hcompletes, hacquired,
      Record.completed_snoc_of_some hcompletes, Record.ofOwner_append,
      hord.ofOwner_acquired_snoc, hord.ofOwner_completed_snoc,
      Record.ofOwner_singleton_snoc (hpendings ticket hpending), Record.ofOwner_snoc hothers,
      hord.order, List.append_assoc]
    refine congrArg (h.ofOwner owner h.completed ++ ·) (filter_eq_singleton_append
      (hord.acquired_nodup.filter _) hpending fun howner t ht howner' => ?_)
    -- of one owner, only the ticket that is inside is under way
    rw [beq_iff_eq, hord.owner_of_uses (.inr ⟨tx, hopen, rfl⟩)] at howner
    have hin : m.Inside ticket owner :=
      Option.some.inj howner ▸ hord.guarded.inside_of_opened hopen
    exact hord.eq_of_mem_pending hin (List.mem_filter.2 ⟨ht, howner'⟩)

theorem taken (hord : InOrder h m) (hm : m.Taken st response m') :
    InOrder (h ++ [(st, response)]) m' := by
  have hrec' := hord.toRecorded.taken hm
  rcases hm.marks with ⟨hacquires, hcompletes⟩ |
    ⟨ticket, task, hwaiting, hholds, hacquires, hcompletes | hcompletes⟩ |
    ⟨ticket, tx, hopen, hacquires, hcompletes⟩
  · have hacquired := Record.acquired_snoc_of_none (h := h) hacquires
    have hcompleted := Record.completed_snoc_of_none (h := h) hcompletes
    have hpending : Record.pending (h ++ [(st, response)]) = h.pending := by
      rw [Record.pending, hacquired, hcompleted]
      rfl
    refine ⟨hrec', hacquired ▸ hord.acquired_nodup, hcompleted ▸ hord.completed_nodup,
      fun owner => ?_⟩
    rw [hacquired, hcompleted, hpending, hord.ofOwner_acquired_snoc, hord.ofOwner_completed_snoc,
      hord.ofOwner_pending_snoc, hord.order]
  · exact hord.work hrec' hwaiting hholds hacquires hcompletes
  · exact hord.open_ hrec' hwaiting hacquires hcompletes
  · exact hord.close hrec' hopen hacquires hcompletes

end InOrder

theorem inOrder_ofSettings (settings : StoreSettings) : InOrder [] (ofSettings settings) :=
  ⟨recorded_ofSettings settings, List.nodup_nil, List.nodup_nil, fun _ => rfl⟩

end Machine

end Turnstile
