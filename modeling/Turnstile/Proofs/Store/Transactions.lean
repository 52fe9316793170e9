/-
# Transactions on the rows of a store

An insert adds a row or is refused; a delete removes a row and tells whether it was there.
The rows of a store, with the copies on which their transactions work, are a store with
transactions in the sense of moves.  Main statement: a move on an owner whose rows are
arranged and numbered goes through, and this is all that it does.
-/
import Turnstile.Proofs.Store.Placements

namespace Turnstile

namespace Transaction

theorem placeFault?_eq_none_iff {tx : Transaction} {id order : Int} :
    tx.placeFault? id order = none ↔
      id ∈ tx.staged.map Item.id ∧ ∀ i ∈ tx.staged, i.id ≠ id → i.order ≠ order := by
  have htaken : (tx.staged.any fun i => i.id != id && i.order == order) = true ↔
      ¬∀ i ∈ tx.staged, i.id ≠ id → i.order ≠ order := by
    simp
  have hthere : (tx.staged.any fun i => i.id == id) = true ↔ id ∈ tx.staged.map Item.id := by
    simp
  rw [placeFault?]
  split_ifs with h1 h2
  · exact ⟨nofun, fun h => absurd h.2 (htaken.1 h1)⟩
  · exact ⟨nofun, fun h => absurd (hthere.2 h.1) (by simpa using h2)⟩
  · refine ⟨fun _ => ⟨hthere.1 (by simpa using h2), ?_⟩, fun _ => rfl⟩
    exact not_not.1 (htaken.not.1 h1)

/-- A placement that is not refused moves a row of the transaction's owner. -/
theorem place_of_clear (tx : Transaction) {id order : Int}
    (hthere : id ∈ tx.staged.map Item.id)
    (hfree : ∀ i ∈ tx.staged, i.id ≠ id → i.order ≠ order) :
    tx.place id tx.owner order =
      (.ok (), { tx with staged := Item.reposition id order tx.staged }) := by
  rw [place, checkOwner, if_pos rfl, placeFault?_eq_none_iff.2 ⟨hthere, hfree⟩]

/-- A placement is refused and changes nothing, or it is clear. -/
theorem place_cases (tx : Transaction) (id : Int) (owner : String) (order : Int) :
    (∃ e, tx.place id owner order = (.error e, tx)) ∨
      owner = tx.owner ∧ (∀ i ∈ tx.staged, i.id ≠ id → i.order ≠ order) ∧
        tx.place id owner order =
          (.ok (), { tx with staged := Item.reposition id order tx.staged }) := by
  by_cases howner : owner = tx.owner
  · subst howner
    cases hfault : tx.placeFault? id order with
    | some e =>
      refine .inl ⟨.storage e, ?_⟩
      rw [place, checkOwner, if_pos rfl, hfault]
    | none =>
      obtain ⟨hthere, hfree⟩ := placeFault?_eq_none_iff.1 hfault
      exact .inr ⟨rfl, hfree, tx.place_of_clear hthere hfree⟩
  · refine .inl ⟨.storage (.ownerMismatch tx.owner owner), ?_⟩
    rw [place, checkOwner, if_neg howner]

theorem place_owner (tx : Transaction) (id : Int) (owner : String) (order : Int) :
    (tx.place id owner order).2.owner = tx.owner := by
  obtain ⟨e, hplace⟩ | ⟨-, -, hplace⟩ := tx.place_cases id owner order
  · rw [hplace]
  · rw [hplace]

end Transaction

namespace Rows

theorem of_replace (r : Rows) (owner : String) (items : List Item) :
    (r.replace owner items).of = Function.update r.of owner items := by
  funext o
  rw [Function.update_apply, of, replace, Register.getD, Register.get?_insert]
  by_cases h : o = owner
  · rw [if_pos h, if_pos h.symm]
    rfl
  · rw [if_neg h, if_neg fun h' => h h'.symm]
    rfl

theorem of_publish (r : Rows) (tx : Transaction) :
    (r.publish tx).of = Function.update r.of tx.owner tx.staged := r.of_replace tx.owner tx.staged

theorem replace_replace (r : Rows) (owner : String) (items items' : List Item) :
    (r.replace owner items).replace owner items' = r.replace owner items' := by
  rw [replace, replace, Register.insert_insert]
  rfl

/-- Putting rows in the place of themselves changes nothing. -/
theorem replace_of {r : Rows} {owner : String} (h : r.of owner ≠ []) :
    r.replace owner (r.of owner) = r := by
  cases hget : r.byOwner.get? owner with
  | none =>
    rw [of, Register.getD, hget] at h
    exact absurd rfl h
  | some items =>
    have hof : r.of owner = items := by
      rw [of, Register.getD, hget]
      rfl
    rw [hof, replace, Register.insert_of_get? hget]

/-! ## Inserts and deletes -/

/-- An insert is refused and changes nothing; or there is room for a row and the position is
free, and it adds a row with the next id behind the others. -/
theorem insert_cases (r : Rows) (owner name : String) (order : Int) (key : Uuid) :
    let i : Item := ⟨r.nextId, key, owner, name, order⟩
    (∃ e, r.insert owner name order key = (.error e, r)) ∨
      (r.of owner).length < r.capacity ∧ (∀ j ∈ r.of owner, j.order ≠ order) ∧
        ∃ r', r.insert owner name order key = (.ok i, r') ∧
          r'.of = Function.update r.of owner (r.of owner ++ [i]) ∧
          r'.nextId = r.nextId + 1 ∧ r'.capacity = r.capacity := by
  intro i
  rw [insert]
  cases hfault : r.insertFault? owner order with
  | some e => exact .inl ⟨.storage e, rfl⟩
  | none =>
    rw [insertFault?] at hfault
    split_ifs at hfault with hfull htaken
    refine .inr ⟨not_le.1 hfull, by simpa using htaken, _, rfl, ?_, rfl, rfl⟩
    exact r.of_replace owner _

/-- An insert brings in no row but its own. -/
theorem mem_of_insert {r : Rows} {owner owner' name : String} {order : Int} {key : Uuid} {j : Item}
    (h : j ∈ (r.insert owner name order key).2.of owner') :
    j ∈ r.of owner' ∨ j = ⟨r.nextId, key, owner, name, order⟩ := by
  obtain ⟨e, hinsert⟩ | ⟨-, -, r', hinsert, hof, -, -⟩ := r.insert_cases owner name order key
  · rw [hinsert] at h
    exact .inl h
  · rw [hinsert, hof, Function.update_apply] at h
    split at h
    · next heq =>
      subst heq
      exact (List.mem_append.1 h).imp_right List.mem_singleton.1
    · exact .inl h

/-- A delete removes the row with the id; all other rows stay, in the sequence they were in. -/
theorem of_delete (r : Rows) (owner : String) (id : Int) :
    (r.delete owner id).2.of =
      Function.update r.of owner ((r.of owner).filter fun i => i.id != id) := by
  rw [delete]
  split
  · next hlength =>
    -- nothing has been removed, so the rows that are kept are all rows
    rw [List.filter_eq_self.2 (List.length_filter_eq_length_iff.1 hlength)]
    exact (Function.update_eq_self owner r.of).symm
  · exact r.of_replace owner _

/-- A delete brings no row in. -/
theorem mem_of_delete {r : Rows} {owner owner' : String} {id : Int} {i : Item}
    (h : i ∈ (r.delete owner id).2.of owner') : i ∈ r.of owner' := by
  rw [of_delete, Function.update_apply] at h
  split at h
  · next heq =>
    subst heq
    exact List.mem_of_mem_filter h
  · exact h

/-- A delete tells whether the row was there. -/
theorem delete_fst_iff {r : Rows} {owner : String} {id : Int} :
    (r.delete owner id).1 = true ↔ id ∈ (r.of owner).map Item.id := by
  have hkept : (∀ i ∈ r.of owner, (i.id != id) = true) ↔ id ∉ (r.of owner).map Item.id := by
    simp
  rw [delete]
  split
  · next hlength =>
    have hgone := hkept.1 (List.length_filter_eq_length_iff.1 hlength)
    exact ⟨nofun, fun hthere => absurd hthere hgone⟩
  · next hlength =>
    refine ⟨fun _ => not_not.1 fun hgone => hlength ?_, fun _ => rfl⟩
    exact List.length_filter_eq_length_iff.2 (hkept.2 hgone)

/-- A delete gives no id and leaves the limit of rows as it is. -/
theorem delete_keeps (r : Rows) (owner : String) (id : Int) :
    (r.delete owner id).2.nextId = r.nextId ∧ (r.delete owner id).2.capacity = r.capacity := by
  rw [delete]
  split <;> exact ⟨rfl, rfl⟩

/-! ## Transactions -/

/-- The rows as a transaction shows them: its own for its owner, the committed ones for all
others. -/
def inside (x : Rows × Transaction) : String → List Item :=
  Function.update x.1.of x.2.owner x.2.staged

/-- The rows of a store have transactions, for an owner whose lock is obtained or not. -/
theorem isTransactional (granted : Bool) :
    (interface granted).IsTransactional of inside where
  begin_outside owner r := by
    cases granted <;> rfl
  begin_inside owner r tx h := by
    cases granted with
    | false => cases h
    | true =>
      obtain rfl : r.snapshot owner = tx := Except.ok.inj h
      exact Function.update_eq_self owner r.of
  rowsOf_outside _ _ := rfl
  rowsOf_inside owner x items h := by
    refine ⟨rfl, ?_⟩
    change (x.2.list owner) = .ok items at h
    rw [Transaction.list, Transaction.checkOwner] at h
    split at h
    · next howner =>
      obtain rfl : Item.sorted x.2.staged = items := Except.ok.inj h
      rw [inside, howner, Function.update_self]
      exact Item.sorted_perm _
    · cases h
  place_outside _ _ _ _ := rfl
  place_inside id owner order x h := by
    change (x.2.place id owner order).1 = .ok () at h
    change inside (x.1, (x.2.place id owner order).2) = _
    obtain ⟨e, hplace⟩ | ⟨rfl, -, hplace⟩ := x.2.place_cases id owner order
    · rw [hplace] at h
      cases h
    · rw [hplace, inside, inside, Function.update_idem, Function.update_self]
  commit_ok r tx h := r.of_publish tx
  commit_error r tx e h := by cases h
  rollback_outside _ _ := rfl

end Rows

/-! ## A move that goes through -/

namespace Move

variable (granted : Bool) (m : Move) (r : Rows) (j : Journal) {rows : List Item}

theorem observed_rowsOf_interface (rows : List Item) :
    ((Rows.interface granted).observed.rowsOf m.owner).runOn ((r, j), ⟨m.owner, rows⟩) =
      ⟨.ok (Item.sorted rows), ((r, { j with listings := j.listings ++ [.ok (Item.sorted rows)] }),
        ⟨m.owner, rows⟩), []⟩ := by
  have hlist : (⟨m.owner, rows⟩ : Transaction).list m.owner = .ok (Item.sorted rows) := by
    rw [Transaction.list, Transaction.checkOwner, if_pos rfl]
    rfl
  have hcall : ((Rows.interface granted).rowsOf m.owner).runOn (r, ⟨m.owner, rows⟩) =
      ⟨(⟨m.owner, rows⟩ : Transaction).list m.owner, (r, ⟨m.owner, rows⟩), []⟩ := rfl
  rw [OrderStore.observed_rowsOf_runOn, hcall, hlist]

/-- A clear placement is made. -/
theorem write_of_clear {p : Int × Int} (hthere : p.1 ∈ rows.map Item.id)
    (hfree : ∀ i ∈ rows, i.id ≠ p.1 → i.order ≠ p.2) :
    (write (Rows.interface granted).observed m (.ok p)).runOn ((r, j), ⟨m.owner, rows⟩) =
      ⟨.ok (), ((r, { j with placements := j.placements ++ [none] }),
        ⟨m.owner, Item.reposition p.1 p.2 rows⟩), []⟩ := by
  have hplace : (⟨m.owner, rows⟩ : Transaction).place p.1 m.owner p.2 =
      (.ok (), ⟨m.owner, Item.reposition p.1 p.2 rows⟩) :=
    Transaction.place_of_clear ⟨m.owner, rows⟩ hthere hfree
  have hcall : ((Rows.interface granted).place p.1 m.owner p.2).runOn (r, ⟨m.owner, rows⟩) =
      ⟨((⟨m.owner, rows⟩ : Transaction).place p.1 m.owner p.2).1,
        (r, ((⟨m.owner, rows⟩ : Transaction).place p.1 m.owner p.2).2), []⟩ := rfl
  rw [hplace] at hcall
  have hwrite := OrderStore.observed_place_runOn (Rows.interface granted) p.1 m.owner p.2 r j
    ⟨m.owner, rows⟩
  rw [hcall] at hwrite
  exact hwrite

/-- Clear placements are all made. -/
theorem forM_write_of_clear {ps : List (Int × Int)} (hclear : Item.Clear ps rows) :
    (forM (ps.map Except.ok) (write (Rows.interface granted).observed m)).runOn
        ((r, j), ⟨m.owner, rows⟩) =
      ⟨.ok (), ((r, { j with placements := j.placements ++ List.replicate ps.length none }),
        ⟨m.owner, Item.repositionAll ps rows⟩), []⟩ := by
  induction ps generalizing j rows with
  | nil =>
    rw [List.length_nil, List.replicate_zero, List.append_nil]
    rfl
  | cons p ps ih =>
    obtain ⟨hthere, hfree, hrest⟩ := hclear
    have hwrite := write_of_clear granted m r j hthere hfree
    rw [List.map_cons, List.forM_cons, Attempt.runOn_bind_of_ok (congrArg Outcome.result hwrite),
      hwrite, ih _ hrest, List.length_cons, List.replicate_succ]
    dsimp only [Outcome.after]
    rw [List.append_assoc]
    rfl

/-- What happens within the transaction of a move if the rows are numbered and arranged: the
rows are shifted and listed, and no placement is refused. -/
theorem within_of_arranged (hnum : Numbered rows) (harr : Arranged rows)
    (ho : m.origin ∈ positions rows.length) (ht : m.target ∈ positions rows.length) :
    let o := (within (Rows.interface granted).observed m).runOn ((r, {}), ⟨m.owner, rows⟩)
    let after := rows.map (Item.shift m.origin m.target)
    o.result = .ok (Item.sorted after) ∧ o.state.1.1 = r ∧ o.state.2 = ⟨m.owner, after⟩ ∧
      o.state.1.2.placements =
        List.replicate (if m.origin = m.target then 0 else 2 * rows.length) none := by
  have hperm := Item.sorted_perm rows
  have hfault : m.fault? (Item.sorted rows) = none := by
    have h := fault?_eq_refusal? m hperm
    rw [(refusal?_eq_none_iff harr).2 ⟨ho, ht⟩] at h
    exact Option.map_eq_none_iff.1 h
  have hlist := observed_rowsOf_interface granted m r {} rows
  rw [within, Attempt.runOn_bind_of_ok (congrArg Outcome.result hlist), hlist, hfault]
  dsimp only
  by_cases hsame : m.origin = m.target
  · rw [if_pos hsame, if_pos hsame, hsame, Item.shift_self, List.map_id']
    exact ⟨rfl, rfl, rfl, rfl⟩
  · obtain ⟨harr', hnum'⟩ : Arranged (Item.sorted rows) ∧ Numbered (Item.sorted rows) :=
      ⟨harr.perm hperm.symm, hnum.perm hperm.symm⟩
    have hlen := hperm.length_eq
    rw [← hlen] at ho ht
    have hsteps : (Item.sorted rows).map parkStep ++
        (planOf (Item.sorted rows) m.origin m.target).map Except.ok =
        (parkings (Item.sorted rows) ++
          planOf (Item.sorted rows) m.origin m.target).map Except.ok := by
      rw [map_parkStep hnum'.1, List.map_append]
    have hwrite := forM_write_of_clear granted m r { listings := [.ok (Item.sorted rows)] }
      (clear_planOf hperm hnum' harr' ho ht)
    rw [← hsteps, ← rearrange_eq_forM, repositionAll_planOf harr' hperm hnum.2 ho ht] at hwrite
    rw [if_neg hsame, if_neg hsame, planMove_eq hfault, if_pos harr', Attempt.orFail_ok, pure_bind,
      List.nil_append, Attempt.runOn_bind_of_ok (congrArg Outcome.result hwrite), hwrite,
      observed_rowsOf_interface]
    refine ⟨rfl, rfl, rfl, ?_⟩
    dsimp only [Outcome.state_after]
    rw [List.nil_append, List.length_append, parkings, List.length_map,
      length_planOf harr' ho ht, hlen, two_mul]

/-- A move on an owner whose rows are numbered and arranged goes through. -/
theorem perform_of_arranged (hnum : Numbered (r.of m.owner)) (harr : Arranged (r.of m.owner))
    (ho : m.origin ∈ positions (r.of m.owner).length)
    (ht : m.target ∈ positions (r.of m.owner).length) :
    let o := (m.perform (Rows.interface true).observed).runOn (r, {})
    let after := (r.of m.owner).map (Item.shift m.origin m.target)
    o.result = .ok (Item.sorted after) ∧ o.state.1 = r.replace m.owner after ∧
      o.state.2.placements =
        List.replicate (if m.origin = m.target then 0 else 2 * (r.of m.owner).length) none := by
  intro o after
  obtain ⟨hresult, hrows, hstaged, hplacements⟩ := within_of_arranged true m r hnum harr ho ht
  rcases hwithin : (within (Rows.interface true).observed m).runOn
    ((r, {}), ⟨m.owner, r.of m.owner⟩) with ⟨result, ⟨⟨r', j'⟩, tx'⟩, es⟩
  rw [hwithin] at hresult hrows hstaged hplacements
  obtain rfl : result = .ok (Item.sorted after) := hresult
  obtain rfl : r' = r := hrows
  obtain rfl : tx' = ⟨m.owner, after⟩ := hstaged
  have hbegin : ((Rows.interface true).begin m.owner).runOn r' =
      ⟨.ok ⟨m.owner, r'.of m.owner⟩, r', [Rows.operationEvent "begin" m.owner true]⟩ := rfl
  have hproceed : (proceed (Rows.interface true).observed m
      (.ok ⟨m.owner, r'.of m.owner⟩)).runOn (r', {}) = _ :=
    complete_runOn (Rows.interface true).observed m ⟨m.owner, r'.of m.owner⟩ (r', {})
  obtain ⟨hcresult, hcstate⟩ := conclude_runOn (Rows.interface true).observed m ⟨m.owner, after⟩
    (Item.sorted after) (r', j')
  rw [OrderStore.observed_commit_runOn] at hcresult hcstate
  rw [hwithin] at hproceed
  have hrun : o = _ := perform_runOn (Rows.interface true).observed m (r', {})
  rw [OrderStore.observed_begin_runOn, hbegin, failure?_ok, hproceed] at hrun
  rw [hrun]
  refine ⟨hcresult, congrArg Prod.fst hcstate, ?_⟩
  have hjournal := congrArg (Journal.placements ∘ Prod.snd) hcstate
  exact hjournal.trans hplacements

end Move

end Turnstile
