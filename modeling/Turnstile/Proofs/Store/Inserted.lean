/-
# Where rows come from

Ids are given in sequence to the rows that are inserted, whoever owns them.  Every row that
is there, committed or in the copy of an open transaction, is one that was inserted, but for
its position.
-/
import Turnstile.Proofs.Store.Moves
import Turnstile.Proofs.Store.Record
import Turnstile.Proofs.Store.Calls

namespace Turnstile

theorem Item.map_identity_reposition (id order : Int) (rows : List Item) :
    (reposition id order rows).map identity = rows.map identity := by
  rw [reposition, List.map_map]
  refine List.map_congr_left fun i _ => ?_
  dsimp only [Function.comp]
  split <;> rfl

theorem Transaction.map_identity_place (tx : Transaction) (id : Int) (owner : String)
    (order : Int) :
    (tx.place id owner order).2.staged.map Item.identity = tx.staged.map Item.identity := by
  obtain ⟨e, hplace⟩ | ⟨-, -, hplace⟩ := tx.place_cases id owner order
  · rw [hplace]
  · rw [hplace]
    exact Item.map_identity_reposition id order tx.staged

theorem Dialogue.map_identity_run (d : Dialogue) (tx : Transaction) :
    (d.run tx).2.staged.map Item.identity = tx.staged.map Item.identity := by
  induction d generalizing tx with
  | ended result => rfl
  | list owner next ih => exact ih _ tx
  | place id owner order next ih => exact (ih _ _).trans (tx.map_identity_place id owner order)

/-- The row that a task has inserted, by its result. -/
def Task.inserted? : Except Error Reply → Option Item
  | .ok (.item i) => some i
  | _ => none

/-- The rows that were inserted, in sequence. -/
def Record.inserted (h : Record) : List Item :=
  h.filterMap fun
    | (.enter _, .ended r) => Task.inserted? r
    | _ => none

/-- Replacing the rows of an owner by some that were among them but for their positions. -/
theorem Rows.source_replace {r : Rows} {owner : String} {items : List Item}
    (hitems : ∀ j ∈ items, j.identity ∈ (r.of owner).map Item.identity) (owner' : String) :
    ∀ j ∈ (r.replace owner items).of owner', j.identity ∈ (r.of owner').map Item.identity := by
  intro j hj
  rw [of_replace, Function.update_apply] at hj
  split at hj
  · next heq =>
    subst heq
    exact hitems j hj
  · exact List.mem_map_of_mem hj

/-- What the work of a task makes of the rows: it inserts one under the next id, or the rows
of every owner are among those that were there but for their positions. -/
theorem Task.work_true_source (task : Task) (r : Rows) :
    let o := (task.work true).runOn r
    (∃ i, inserted? o.result = some i ∧ i.id = r.nextId ∧ o.state.nextId = r.nextId + 1 ∧
      ∀ owner, ∀ j ∈ o.state.of owner, j ∈ r.of owner ∨ j = i) ∨
    inserted? o.result = none ∧ o.state.nextId = r.nextId ∧
      ∀ owner, ∀ j ∈ o.state.of owner, j.identity ∈ (r.of owner).map Item.identity := by
  intro o
  have hsame : ∀ owner, ∀ j ∈ r.of owner, j.identity ∈ (r.of owner).map Item.identity :=
    fun owner j hj => List.mem_map_of_mem hj
  cases task with
  | insert owner name order key =>
    have ho : o = _ := work_insert_runOn owner name order key r
    have hmem : ∀ owner', ∀ j ∈ o.state.of owner',
        j ∈ r.of owner' ∨ j = ⟨r.nextId, key, owner, name, order⟩ := by
      rw [ho]
      exact fun owner' j hj => Rows.mem_of_insert hj
    obtain ⟨e, hinsert⟩ | ⟨-, -, r', hinsert, -, hnext, -⟩ := r.insert_cases owner name order key
    · rw [ho, hinsert]
      exact .inr ⟨rfl, rfl, hsame⟩
    · refine .inl ⟨⟨r.nextId, key, owner, name, order⟩, ?_, rfl, ?_, hmem⟩
      · rw [ho, hinsert]
        rfl
      · rw [ho, hinsert]
        exact hnext
  | delete owner id =>
    have ho : o = _ := work_delete_runOn owner id r
    rw [ho]
    exact .inr ⟨rfl, (r.delete_keeps owner id).1,
      fun owner' j hj => hsame owner' j (Rows.mem_of_delete hj)⟩
  | begin owner => exact .inr ⟨rfl, rfl, hsame⟩
  | move mv =>
    obtain ⟨hresult, hstate⟩ := work_move_true_runOn mv r
    have hresult : o.result = _ := hresult
    have hstate : o.state = _ := hstate
    rw [hresult, hstate]
    have hidentity := mv.dialogue.map_identity_run (r.snapshot mv.owner)
    have howner := mv.dialogue.run_owner (r.snapshot mv.owner)
    generalize mv.dialogue.run (r.snapshot mv.owner) = d at hidentity howner
    obtain ⟨result, tx⟩ := d
    cases result with
    | error e => exact .inr ⟨rfl, rfl, hsame⟩
    | ok items =>
      refine .inr ⟨rfl, rfl, Rows.source_replace fun j hj => ?_⟩
      rw [howner]
      exact hidentity ▸ List.mem_map_of_mem hj

/-- Only an insert replies with a row, and this is the row that it was to insert. -/
theorem Task.eq_insert_of_work {task : Task} {r : Rows} {i : Item}
    (h : ((task.work true).runOn r).result = .ok (.item i)) :
    task = .insert i.owner i.name i.order i.key := by
  cases task with
  | insert owner name order key =>
    rw [work_insert_runOn] at h
    obtain ⟨e, hinsert⟩ | ⟨-, -, r', hinsert, -⟩ := r.insert_cases owner name order key
    · rw [hinsert] at h
      cases h
    · rw [hinsert] at h
      cases h
      rfl
  | delete owner id => cases h
  | begin owner => cases h
  | move mv =>
    rw [(work_move_true_runOn mv r).1] at h
    cases hd : (mv.dialogue.run (r.snapshot mv.owner)).1 <;> rw [hd] at h <;> cases h

/-! ## The rows that are there -/

namespace Machine

/-- A row is among the committed rows of an owner, or in the copy of an open transaction. -/
def Holds (m : Machine) (owner : String) (i : Item) : Prop :=
  i ∈ m.rows.of owner ∨ ∃ ticket tx, m.opened.get? ticket = some tx ∧ tx.owner = owner ∧
    i ∈ tx.staged

/-- Ids are given in sequence, and all rows are among those that were inserted but for their
positions. -/
structure Sourced (h : Record) (m : Machine) : Prop where
  ids : h.inserted.map Item.id = positions h.inserted.length
  next : m.rows.nextId = h.inserted.length + 1
  source : ∀ owner i, m.Holds owner i → i.identity ∈ h.inserted.map Item.identity

variable {h : Record} {m m' : Machine} {st : Step} {response : Response}

theorem inserted_snoc (h : Record) (e : Step × Response) :
    Record.inserted (h ++ [e]) = h.inserted ++ Record.inserted [e] := List.filterMap_append ..

theorem inserted_enter (ticket : Nat) (r : Except Error Reply) :
    Record.inserted [(.enter ticket, .ended r)] = (Task.inserted? r).toList := by
  cases h : Task.inserted? r <;> simp [Record.inserted, h]

/-- After a step that inserts nothing, all rows are where they were but for their positions. -/
theorem Taken.holds (hm : m.Taken st response m')
    (hnone : Record.inserted [(st, response)] = []) :
    m'.rows.nextId = m.rows.nextId ∧ ∀ owner i, m'.Holds owner i →
      ∃ j, m.Holds owner j ∧ j.identity = i.identity := by
  cases hm with
  | impossible _ _ | refused _ _ _ | arrived _ _ | gaveUp _ _ _ _ | listed _ | txListed _ _ _ _ =>
    exact ⟨rfl, fun owner i hi => ⟨i, hi, rfl⟩⟩
  | worked ticket task _ _ _ =>
    obtain ⟨i, hresult, -⟩ | ⟨-, hnext, hsource⟩ := task.work_true_source m.rows
    · rw [inserted_enter, hresult] at hnone
      cases hnone
    · refine ⟨hnext, fun owner i hi => ?_⟩
      rcases hi with hi | hi
      · obtain ⟨j, hj, heq⟩ := List.mem_map.1 (hsource owner i hi)
        exact ⟨j, .inl hj, heq⟩
      · exact ⟨i, .inr hi, rfl⟩
  | begun ticket owner' _ _ =>
    refine ⟨rfl, fun owner i hi => ?_⟩
    rcases hi with hi | ⟨t, tx, hopen, howner, hi⟩
    · exact ⟨i, .inl hi, rfl⟩
    · rw [keep, Register.get?_insert] at hopen
      split at hopen
      · obtain rfl := Option.some.inj hopen
        exact ⟨i, .inl (howner ▸ hi), rfl⟩
      · exact ⟨i, .inr ⟨t, tx, hopen, howner, hi⟩, rfl⟩
  | placed ticket tx' hopen' id owner' order =>
    refine ⟨rfl, fun owner i hi => ?_⟩
    rcases hi with hi | ⟨t, tx, hopen, howner, hi⟩
    · exact ⟨i, .inl hi, rfl⟩
    · rw [Register.get?_insert] at hopen
      split at hopen
      · obtain rfl := Option.some.inj hopen
        have hmem : i.identity ∈ tx'.staged.map Item.identity :=
          tx'.map_identity_place id owner' order ▸ List.mem_map_of_mem hi
        obtain ⟨j, hj, heq⟩ := List.mem_map.1 hmem
        rw [Transaction.place_owner] at howner
        exact ⟨j, .inr ⟨ticket, tx', hopen', howner, hj⟩, heq⟩
      · exact ⟨i, .inr ⟨t, tx, hopen, howner, hi⟩, rfl⟩
  | committed ticket tx' hopen' =>
    -- what is published was held in the copy before
    refine ⟨rfl, fun owner i hi => ⟨i, ?_, rfl⟩⟩
    rcases hi with hi | ⟨t, tx, hopen, howner, hi⟩
    · change i ∈ (m.rows.publish tx').of owner at hi
      rw [Rows.of_publish, Function.update_apply] at hi
      split at hi
      · next heq => exact .inr ⟨ticket, tx', hopen', heq.symm, hi⟩
      · exact .inl hi
    · exact .inr ⟨t, tx, Register.get?_of_erase hopen, howner, hi⟩
  | discarded ticket tx' _ _ _ =>
    refine ⟨rfl, fun owner i hi => ⟨i, ?_, rfl⟩⟩
    rcases hi with hi | ⟨t, tx, hopen, howner, hi⟩
    · exact .inl hi
    · exact .inr ⟨t, tx, Register.get?_of_erase hopen, howner, hi⟩

theorem Sourced.taken (hs : Sourced h m) (hm : m.Taken st response m') :
    Sourced (h ++ [(st, response)]) m' := by
  -- only a task that inserts a row adds to the rows on record
  cases hnone : Record.inserted [(st, response)] with
  | nil =>
    obtain ⟨hnext, hholds⟩ := hm.holds hnone
    have hinserted : Record.inserted (h ++ [(st, response)]) = h.inserted := by
      rw [inserted_snoc, hnone, List.append_nil]
    refine ⟨hinserted ▸ hs.ids, ?_, fun owner i hi => ?_⟩
    · rw [hinserted, hnext, hs.next]
    · obtain ⟨j, hj, heq⟩ := hholds owner i hi
      rw [hinserted, ← heq]
      exact hs.source owner j hj
  | cons i is =>
    cases hm with
    | worked ticket task _ _ _ =>
      obtain ⟨j, hresult, hid, hnext, hrows⟩ | ⟨hno, -⟩ := task.work_true_source m.rows
      · have hinserted : Record.inserted (h ++ [(.enter ticket,
            .ended ((task.work true).runOn m.rows).result)]) = h.inserted ++ [j] := by
          rw [inserted_snoc, inserted_enter, hresult, Option.toList_some]
        refine ⟨?_, ?_, fun owner k hk => ?_⟩
        · rw [hinserted, List.map_append, hs.ids, List.length_append, List.length_singleton,
            positions_succ, List.map_singleton, hid, hs.next]
          rfl
        · rw [hinserted, List.length_append, List.length_singleton, ← hs.next]
          exact hnext
        · rw [hinserted, List.map_append, List.mem_append]
          rcases hk with hk | hk
          · rcases hrows owner k hk with hk | rfl
            · exact .inl (hs.source owner k (.inl hk))
            · exact .inr (List.mem_singleton_self _)
          · exact .inl (hs.source owner k (.inr hk))
      · rw [inserted_enter, hno] at hnone
        cases hnone
    | impossible st _ => cases st <;> cases hnone
    | discarded _ _ _ st hst => rcases hst with rfl | rfl <;> cases hnone
    | _ => cases hnone

/-- Two rows with the same id are the same row but for its position. -/
theorem Sourced.identity_eq (hs : Sourced h m) {owner owner' : String} {i j : Item}
    (hi : m.Holds owner i) (hj : m.Holds owner' j) (hid : i.id = j.id) :
    i.identity = j.identity := by
  obtain ⟨i', hi', hiEq⟩ := List.mem_map.1 (hs.source owner i hi)
  obtain ⟨j', hj', hjEq⟩ := List.mem_map.1 (hs.source owner' j hj)
  have hnodup : (h.inserted.map Item.id).Nodup := hs.ids ▸ nodup_positions _
  have hid' : i'.id = j'.id :=
    (congrArg Prod.fst hiEq).trans (hid.trans (congrArg Prod.fst hjEq).symm)
  rw [← hiEq, ← hjEq, List.inj_on_of_nodup_map hnodup hi' hj' hid']

/-- Rows are inserted by tasks that began in order to insert them. -/
theorem task?_of_inserted (settings : StoreSettings) (ss : List Step) :
    ∀ ticket i, (.enter ticket, .ended (.ok (.item i))) ∈ record (ofSettings settings) ss →
      (record (ofSettings settings) ss).task? ticket =
        some (.insert i.owner i.name i.order i.key) := by
  let Q : Record → Machine → Prop := fun h m => Recorded h m ∧
    ∀ ticket i, (.enter ticket, .ended (.ok (.item i))) ∈ h →
      h.task? ticket = some (.insert i.owner i.name i.order i.key)
  have hstart : Q [] (ofSettings settings) :=
    ⟨recorded_ofSettings settings, fun _ _ he => absurd he List.not_mem_nil⟩
  refine (record_induction (Q := Q) hstart
    (fun {h m st response m'} hQ hm => ⟨hQ.1.taken hm, fun ticket i he => ?_⟩) ss).2
  rw [Record.task?_snoc]
  rcases List.mem_append.1 he with he | he
  · rw [hQ.2 ticket i he]
    rfl
  · have heq := List.mem_singleton.1 he
    cases hm with
    | worked ticket' task hwaiting _ _ =>
      obtain ⟨hst, hresponse⟩ := Prod.mk.inj heq
      obtain rfl := Step.enter.inj hst
      have htask : h.task? ticket = some task :=
        (hwaiting ▸ hQ.1.life ticket).of_waiting.1
      rw [htask, ← Task.eq_insert_of_work (Response.ended.inj hresponse).symm]
      rfl
    | _ => cases heq

theorem reached_sourced (settings : StoreSettings) (ss : List Step) :
    Sourced (record (ofSettings settings) ss) (reached settings ss) :=
  record_induction ⟨rfl, rfl, by rintro owner i (hi | ⟨_, _, hopen, -⟩) <;> contradiction⟩
    (fun hs hm => hs.taken hm) ss

end Machine

end Turnstile
