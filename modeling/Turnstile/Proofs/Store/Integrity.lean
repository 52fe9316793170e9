/-
# The rows of a store stay sound

The committed rows of an owner, and the copy in every transaction that is open on it, are
always tidy: no two rows share a position, all belong to the owner, they are no more than
the store allows, and their ids are positive and tell them apart.  Ids are given in sequence
to the rows that are inserted, and a row that is there is one that was inserted, but for its
position; so no id ever stands for two rows, of whatever owners.

If nothing but moves is done in transactions, the negative positions on which a move parks
its rows never become visible.  This does not follow from what is kept step by step, as the
copies do hold such positions: the rows are those of doing everything one ticket after the
other, and there a move leaves rows at positive positions if it finds them there.
-/
import Turnstile.Proofs.Store.Inserted
import Turnstile.Proofs.Store.Serialization

namespace Turnstile

/-! ## Tidy rows -/

/-- Rows that are as the rules of the store demand of the rows of an owner. -/
structure Tidy (capacity : Nat) (owner : String) (next : Nat) (rows : List Item) : Prop where
  orders : (rows.map Item.order).Nodup
  owners : ∀ i ∈ rows, i.owner = owner
  fits : rows.length ≤ capacity
  numbered : NumberedBefore owner next rows

/-- A row that goes to a free position shares it with none. -/
theorem Item.nodup_order_reposition {id order : Int} {rows : List Item}
    (hids : (rows.map Item.id).Nodup) (horders : (rows.map Item.order).Nodup)
    (hfree : ∀ i ∈ rows, i.id ≠ id → i.order ≠ order) :
    ((reposition id order rows).map Item.order).Nodup := by
  rw [reposition, List.map_map]
  refine (List.Nodup.of_map _ hids).map_on fun a ha b hb hab => ?_
  have hid : a.id = id → b.id = id → a = b := fun h h' =>
    List.inj_on_of_nodup_map hids ha hb (h.trans h'.symm)
  dsimp only [Function.comp] at hab
  split_ifs at hab with haid hbid hbid
  · exact hid haid hbid
  · exact absurd hab.symm (hfree b hb hbid)
  · exact absurd hab (hfree a ha haid)
  · exact List.inj_on_of_nodup_map horders ha hb hab

theorem tidy_lasting (capacity : Nat) : Rows.Lasting capacity (Tidy capacity) where
  nil owner := ⟨List.nodup_nil, nofun, Nat.zero_le _, (numberedBefore_lasting capacity).nil owner⟩
  later hle h :=
    ⟨h.orders, h.owners, h.fits, (numberedBefore_lasting capacity).later hle h.numbered⟩
  insert {owner next rows} name order key hroom hfree h := by
    refine ⟨?_, fun i hi => ?_, ?_,
      (numberedBefore_lasting capacity).insert name order key hroom hfree h.numbered⟩
    · rw [List.map_append, List.map_singleton, List.nodup_append_comm]
      refine List.nodup_cons.2 ⟨fun hmem => ?_, h.orders⟩
      obtain ⟨i, hi, heq⟩ := List.mem_map.1 hmem
      exact hfree i hi heq
    · rcases List.mem_append.1 hi with hi | hi
      · exact h.owners i hi
      · rw [List.mem_singleton.1 hi]
    · rw [List.length_append, List.length_singleton]
      exact hroom
  delete {owner next rows} id h :=
    ⟨h.orders.sublist (List.filter_sublist.map _),
      fun i hi => h.owners i (List.mem_of_mem_filter hi), (List.length_filter_le _ _).trans h.fits,
      (numberedBefore_lasting capacity).delete id h.numbered⟩
  place {owner next rows} id order hfree h := by
    refine ⟨Item.nodup_order_reposition h.numbered.2.1.2 h.orders hfree, fun i hi => ?_, ?_,
      (numberedBefore_lasting capacity).place id order hfree h.numbered⟩
    · obtain ⟨j, hj, rfl⟩ := List.mem_map.1 hi
      split
      · exact h.owners j hj
      · exact h.owners j hj
    · rw [Item.reposition, List.length_map]
      exact h.fits

/-! ## Positive positions -/

/-- All committed rows are at positive positions. -/
def Rows.Positive (r : Rows) : Prop := ∀ owner, ∀ i ∈ r.of owner, 1 ≤ i.order

theorem shifted_pos {origin target order : Int} (ho : 1 ≤ origin) (ht : 1 ≤ target)
    (h : 1 ≤ order) : 1 ≤ shifted origin target order := by
  unfold shifted
  split_ifs <;> omega

/-- A move goes well only if there is a row at its origin and its target is a position. -/
theorem Move.ends_of_dialogue_ok {mv : Move} {r : Rows} {items : List Item}
    (h : (mv.dialogue.run (r.snapshot mv.owner)).1 = .ok items) :
    (∃ i ∈ r.of mv.owner, i.order = mv.origin) ∧ 1 ≤ mv.target := by
  have hlist : (r.snapshot mv.owner).list mv.owner = .ok (Item.sorted (r.of mv.owner)) := by
    rw [Transaction.list, Transaction.checkOwner]
    exact congrArg (Except.map _) (if_pos rfl)
  have hfault : mv.fault? (Item.sorted (r.of mv.owner)) = none := by
    cases hfault : mv.fault? (Item.sorted (r.of mv.owner)) with
    | none => rfl
    | some f =>
      rw [dialogue, Dialogue.run, hlist, Dialogue.ifOk, hfault] at h
      cases h
  have hrefusal := fault?_eq_refusal? mv (Item.sorted_perm (r.of mv.owner))
  rw [hfault, refusal?] at hrefusal
  split_ifs at hrefusal with horigin htarget
  · exact ⟨horigin, htarget.1⟩
  all_goals cases hrefusal

/-- A move leaves all rows at positive positions if it finds them there. -/
theorem Move.work_positive (mv : Move) {capacity : Nat} {r : Rows}
    (hall : r.All capacity NumberedBefore) (hpos : r.Positive) :
    (((Task.move mv).work true).runOn r).state.Positive := by
  obtain ⟨hresult, -⟩ := Task.work_move_true_runOn mv r
  obtain ⟨hperform, hstate⟩ := Machine.work_move_eq_perform true mv r
  obtain ⟨hsame, hsameState, -⟩ :=
    perform_mirrors (Rows.interface true).observed_mirrors mv (r, {}) r rfl
  obtain ⟨-, hmatch⟩ := perform_observed (Rows.isTransactional true) mv r
  rw [hstate, ← hsameState]
  split at hmatch
  · intro owner i hi
    rw [hmatch.2] at hi
    exact hpos owner i hi
  · obtain ⟨items, hok, hcarried⟩ := hmatch
    rw [hperform, ← hsame, hok] at hresult
    have hends : (∃ i ∈ r.of mv.owner, i.order = mv.origin) ∧ 1 ≤ mv.target := by
      cases hd : (mv.dialogue.run (r.snapshot mv.owner)).1 with
      | ok items => exact ends_of_dialogue_ok hd
      | error e =>
        rw [hd] at hresult
        cases hresult
    -- a move that went well shifts the rows between two positions that are positive
    obtain ⟨⟨j, hj, horigin⟩, htarget⟩ := hends
    intro owner i hi
    by_cases howner : owner = mv.owner
    · subst howner
      rw [hcarried.rows (hall.of mv.owner).2.1.2] at hi
      obtain ⟨k, hk, rfl⟩ := List.mem_map.1 hi
      exact shifted_pos (horigin ▸ hpos mv.owner j hj) htarget (hpos mv.owner k hk)
    · rw [hcarried.others owner howner] at hi
      exact hpos owner i hi

/-- No task moves a row to a position that is not positive. -/
theorem Task.work_positive (task : Task) (hrefusal : task.refusal? = none) {capacity : Nat}
    {r : Rows} (hall : r.All capacity NumberedBefore) (hpos : r.Positive) :
    ((task.work true).runOn r).state.Positive := by
  cases task with
  | insert owner name order key =>
    have horder : 1 ≤ order := by
      rw [refusal?] at hrefusal
      split at hrefusal
      · next haccepts => exact of_decide_eq_true haccepts
      · cases hrefusal
    rw [work_insert_runOn]
    intro owner' i hi
    obtain hi | rfl := Rows.mem_of_insert hi
    · exact hpos owner' i hi
    · exact horder
  | delete owner id =>
    rw [work_delete_runOn]
    exact fun owner' i hi => hpos owner' i (Rows.mem_of_delete hi)
  | begin owner => exact hpos
  | move mv => exact mv.work_positive hall hpos

/-! ## Only moves -/

/-- All that was committed in transactions are moves, made call by call. -/
def Record.OnlyMoves (h : Record) : Prop :=
  ∀ ticket owner, h.task? ticket = some (.begin owner) →
    (∃ e ∈ h.deeds ticket, e.1 = .commit ticket) → ∃ mv result, h.Conducts ticket mv result

namespace Machine

variable {h : Record} {m : Machine} {start : Rows}

/-- If only moves are committed, all that happens to the rows under a ticket is the work of a
task. -/
theorem Serialized.alone_work (hser : Serialized start h m) (hmoves : h.OnlyMoves)
    {before after : List Nat} {ticket : Nat} (hsplit : h.completed = before ++ ticket :: after) :
    let r := h.serial start before
    (h.alone ticket r).state.rows = r ∨ ∃ task : Task, task.refusal? = none ∧
      (h.alone ticket r).state.rows = ((task.work true).runOn r).state := by
  intro r
  have hdone : ticket ∈ h.completed := hsplit ▸ List.mem_append_right _ List.mem_cons_self
  obtain ⟨task, response, htask, hrefusal, -, hdeeds⟩ | ⟨owner, htask⟩ :=
    (hser.life ticket).of_completes (Record.mem_completed_iff.1 hdone)
  · exact .inr ⟨task, hrefusal, alone_of_worked htask hrefusal hdeeds⟩
  · -- a transaction that was not committed did nothing, and one that was is a move
    by_cases hcommit : ∃ e ∈ h.deeds ticket, e.1 = .commit ticket
    · obtain ⟨mv, result, hconducts⟩ := hmoves ticket owner htask hcommit
      refine .inr ⟨.move mv, rfl, ?_⟩
      rw [← (alone_of_conducts hconducts (hser.echoes hsplit)).2, (move_alone ticket mv r).2,
        (Task.work_move_true_runOn mv r).2]
    · exact .inl (Record.alone_rows_of_discarded htask (fun e he heq => hcommit ⟨e, he, heq⟩) r)

/-- If only moves are committed, all rows are at positive positions after every ticket. -/
theorem Serialized.serial_positive (hser : Serialized start h m) (hmoves : h.OnlyMoves)
    {capacity : Nat} (hall : start.All capacity NumberedBefore) (hpos : start.Positive)
    {before after : List Nat} (hsplit : h.completed = before ++ after) :
    (h.serial start before).All capacity NumberedBefore ∧ (h.serial start before).Positive := by
  induction before using List.reverseRecOn generalizing after with
  | nil => exact ⟨hall, hpos⟩
  | append_singleton before ticket ih =>
    rw [List.append_assoc] at hsplit
    obtain ⟨hall', hpos'⟩ := ih hsplit
    rw [Record.serial_append]
    change (h.alone ticket (h.serial start before)).state.rows.All capacity NumberedBefore ∧
      (h.alone ticket (h.serial start before)).state.rows.Positive
    obtain hsame | ⟨task, hrefusal, hwork⟩ := hser.alone_work hmoves hsplit
    · rw [hsame]
      exact ⟨hall', hpos'⟩
    · rw [hwork]
      exact ⟨(task.work_all (numberedBefore_lasting capacity) true hall').1,
        task.work_positive hrefusal hall' hpos'⟩

/-! ## Integrity -/

/-- The rows of a store are as its rules demand, and are the rows that were inserted. -/
structure Integrity (capacity : Nat) (h : Record) (m : Machine) : Prop where
  /-- The committed rows of every owner are tidy. -/
  committed : ∀ owner, Tidy capacity owner m.rows.nextId (m.rows.of owner)
  /-- So is the copy in every open transaction. -/
  staged : ∀ ticket tx, m.opened.get? ticket = some tx →
    Tidy capacity tx.owner m.rows.nextId tx.staged
  /-- A row that was inserted is what a task was to insert, but for its id. -/
  inserts : ∀ ticket i, (.enter ticket, .ended (.ok (.item i))) ∈ h →
    h.task? ticket = some (.insert i.owner i.name i.order i.key)
  /-- The rows that were inserted have been given the ids 1, 2, 3 and so on, and the next one
  is given the id after theirs. -/
  ids : h.inserted.map Item.id = positions h.inserted.length ∧
    m.rows.nextId = h.inserted.length + 1
  /-- A row that is there was inserted, and is what it was but for its position. -/
  inserted : ∀ owner i, m.Holds owner i → ∃ j ∈ h.inserted, j.identity = i.identity
  /-- An id stands for one row of one owner. -/
  apart : ∀ owner owner' i j, m.Holds owner i → m.Holds owner' j → i.id = j.id →
    owner = owner' ∧ i.identity = j.identity
  /-- If only moves are committed, no committed row is at a position that is not positive. -/
  positive : h.OnlyMoves → ∀ owner, ∀ i ∈ m.rows.of owner, 1 ≤ i.order

/-- After any steps, the rows of a store are as its rules demand. -/
theorem reached_integrity (settings : StoreSettings) (ss : List Step) :
    Integrity settings.maxItems (record (ofSettings settings) ss) (reached settings ss) := by
  have hsound := reached_sound (tidy_lasting settings.maxItems) ss
  have hsourced := reached_sourced settings ss
  have hser := reached_serialized settings ss
  have howner : ∀ owner i, (reached settings ss).Holds owner i → i.owner = owner := by
    rintro owner i (hi | ⟨ticket, tx, hopen, rfl, hi⟩)
    · exact (hsound.rows.of owner).owners i hi
    · exact (hsound.opened ticket tx hopen).owners i hi
  exact {
    committed := hsound.rows.of
    staged := hsound.opened
    inserts := task?_of_inserted settings ss
    ids := ⟨hsourced.ids, hsourced.next⟩
    inserted := fun owner i hi => List.mem_map.1 (hsourced.source owner i hi)
    apart := fun owner owner' i j hi hj hid => by
      have hidentity := hsourced.identity_eq hi hj hid
      refine ⟨?_, hidentity⟩
      rw [← howner owner i hi, ← howner owner' j hj]
      exact congrArg (fun x => x.2.2.1) hidentity
    positive := fun hmoves => by
      have hnil := (numberedBefore_lasting settings.maxItems).nil
      rw [hser.rows]
      exact (hser.serial_positive hmoves ⟨rfl, hnil⟩ nofun (List.append_nil _).symm).2 }

/-- A move of the second row to the first position, made call by call, of which the negative
positions in between are not seen. -/
theorem reached_integrity_of_conducted_move :
    let ss : List Step := [.arrive (.insert "ann" "a" 1 ⟨1⟩), .enter 0,
      .arrive (.insert "ann" "b" 2 ⟨2⟩), .enter 1, .arrive (.begin "ann"), .enter 2,
      .txList 2 "ann", .txPlace 2 1 "ann" (-1), .txPlace 2 2 "ann" (-2), .txPlace 2 2 "ann" 1,
      .txPlace 2 1 "ann" 2, .txList 2 "ann", .commit 2]
    let h := record (ofSettings {}) ss
    h.OnlyMoves ∧ (∀ owner, ∀ i ∈ (reached {} ss).rows.of owner, 1 ≤ i.order) ∧
      (reached {} ss).rows.of "ann" = [⟨1, ⟨1⟩, "ann", "a", 2⟩, ⟨2, ⟨2⟩, "ann", "b", 1⟩] := by
  intro ss h
  have hmoves : h.OnlyMoves := by
    rintro ticket owner - ⟨e, he, hst⟩
    have hmem : e.1 ∈ ss := (List.of_mem_zip (Record.mem_deeds_iff.1 he).1).1
    obtain rfl : ticket = 2 := by simpa [hst, ss] using hmem
    -- the rows before the move, the calls that it asks for, and the rows after it
    let before : List Item := [⟨1, ⟨1⟩, "ann", "a", 1⟩, ⟨2, ⟨2⟩, "ann", "b", 2⟩]
    let after : List Item := [⟨2, ⟨2⟩, "ann", "b", 1⟩, ⟨1, ⟨1⟩, "ann", "a", 2⟩]
    let calls : Record := [(.txList 2 "ann", .listed (.ok before)),
      (.txPlace 2 1 "ann" (-1), .settled (.ok ())), (.txPlace 2 2 "ann" (-2), .settled (.ok ())),
      (.txPlace 2 2 "ann" 1, .settled (.ok ())), (.txPlace 2 1 "ann" 2, .settled (.ok ())),
      (.txList 2 "ann", .listed (.ok after))]
    have hdeeds : h.deeds 2 = (.enter 2, .ended (.ok (.opened ⟨"ann", before⟩))) :: calls ++
        [(.commit 2, .settled (.ok ()))] := by cbv
    have hafter : (Move.dialogue ⟨.status, "ann", 2, 1⟩).after? 2 calls =
        some (.ended (.ok after)) := by cbv
    exact ⟨⟨.status, "ann", 2, 1⟩, .ok after, by decide +kernel, _, calls, _, hdeeds, hafter⟩
  exact ⟨hmoves, (reached_integrity {} ss).positive hmoves, by decide +kernel⟩

end Machine

end Turnstile
