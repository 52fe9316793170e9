/-
# Moving a row in a reachable store

In a state that any interleaving of tasks has led to, an owner whose rows are at the
positions 1 to N and whose lock is free can have any row moved anywhere: the move succeeds,
no placement on the way is refused, and the rows are reordered as `Move.Reordered` says.

That the ids are numbers that tell the rows apart is not checked by the move; it is an
invariant of the store.
-/
import Turnstile.Proofs.Store.Exclusion

namespace Turnstile

/-! ## Rows that are reordered -/

/-- All of a row but its position. -/
def Item.identity (i : Item) : Int × Uuid × String × String := (i.id, i.key, i.owner, i.name)

/-- What a move makes of the rows of its owner: they are at the same positions as before and
the same but for these; the row at `origin` has gone to `target`; and the others follow each
other as before. -/
structure Move.Reordered (m : Move) (before after : List Item) : Prop where
  arranged : Arranged after
  kept : after.map Item.identity = before.map Item.identity
  mover : ∀ i ∈ before, i.order = m.origin → { i with order := m.target } ∈ after
  others : ((Item.sorted after).filter fun i => i.order != m.target).map Item.identity =
    ((Item.sorted before).filter fun i => i.order != m.origin).map Item.identity

namespace Item

/-- Arranged rows are listed from the first position to the last. -/
theorem map_order_sorted {items : List Item} (h : Arranged items) :
    (sorted items).map order = positions items.length := by
  have hpositions : (positions items.length).Pairwise (· ≤ ·) := by
    rw [positions, List.pairwise_map]
    exact List.pairwise_lt_range.imp fun hlt => by simp only [Int.ofNat_eq_natCast]; omega
  exact List.Perm.eq_of_pairwise (fun _ _ _ _ => le_antisymm)
    (List.pairwise_map.2 (sorted_pairwise items)) hpositions
    (((sorted_perm items).map _).trans h)

/-- The rows that do not move are listed after a shift as they were listed before. -/
theorem sorted_map_shift_filter {rows : List Item} (h : Arranged rows) {origin target : Int}
    (ho : origin ∈ positions rows.length) (ht : target ∈ positions rows.length) :
    (sorted (rows.map (shift origin target))).filter (fun i => i.order != target) =
      ((sorted rows).filter fun i => i.order != origin).map (shift origin target) := by
  have hmoves : ((fun i : Item => i.order != target) ∘ shift origin target) =
      fun i : Item => i.order != origin := by
    funext i
    have hiff : shifted origin target i.order = target ↔ i.order = origin :=
      ⟨fun heq => shifted_injective origin target (heq.trans (shifted_origin origin target).symm),
        fun heq => heq ▸ shifted_origin i.order target⟩
    simp only [Function.comp, shift, bne, beq_eq_decide, hiff]
  -- both sides are the same rows, and both are sorted
  have hperm : ((sorted (rows.map (shift origin target))).filter fun i => i.order != target).Perm
      (((sorted rows).filter fun i => i.order != origin).map (shift origin target)) := by
    have hrows := ((sorted_perm rows).map (shift origin target)).symm
    have hsorted := ((sorted_perm (rows.map (shift origin target))).trans hrows).filter
      fun i => i.order != target
    rw [List.filter_map, hmoves] at hsorted
    exact hsorted
  have hafter : ((sorted (rows.map (shift origin target))).filter fun i =>
      i.order != target).Pairwise fun a b => a.order ≤ b.order :=
    (sorted_pairwise _).filter _
  have hbefore : (((sorted rows).filter fun i => i.order != origin).map
      (shift origin target)).Pairwise fun a b => a.order ≤ b.order := by
    rw [List.pairwise_map]
    refine ((sorted_pairwise rows).filter _).imp_of_mem fun {a b} ha hb hab => ?_
    have ha' : a.order ≠ origin := by simpa using (List.mem_filter.1 ha).2
    have hb' : b.order ≠ origin := by simpa using (List.mem_filter.1 hb).2
    rw [shift, shift, ← not_lt, shifted_lt_shifted_iff hb' ha', not_lt]
    exact hab
  refine hperm.eq_of_pairwise (fun a b ha hb hab hba => ?_) hafter hbefore
  have hmem : ∀ i ∈ (sorted (rows.map (shift origin target))).filter
      (fun i => i.order != target), i ∈ rows.map (shift origin target) :=
    fun i hi => (sorted_perm _).subset (List.mem_of_mem_filter hi)
  exact (h.map_shift ho ht).eq_of_order_eq (hmem a ha) (hmem b (hperm.symm.subset hb))
    (le_antisymm hab hba)

end Item

/-- Shifting the positions reorders the rows. -/
theorem Move.reordered_map_shift {m : Move} {rows : List Item} (h : Arranged rows)
    (ho : m.origin ∈ positions rows.length) (ht : m.target ∈ positions rows.length) :
    m.Reordered rows (rows.map (Item.shift m.origin m.target)) where
  arranged := h.map_shift ho ht
  kept := by
    rw [List.map_map]
    rfl
  mover i hi horder := by
    have hshift : Item.shift m.origin m.target i = { i with order := m.target } := by
      rw [Item.shift, horder, shifted_origin]
    exact hshift ▸ List.mem_map_of_mem hi
  others := by
    rw [Item.sorted_map_shift_filter h ho ht, List.map_map]
    rfl

/-! ## The ids of rows -/

/-- Ids of rows are positive, tell them apart and have all been given before the next. -/
def NumberedBefore (_owner : String) (next : Nat) (rows : List Item) : Prop :=
  0 < next ∧ Numbered rows ∧ ∀ i ∈ rows, i.id < next

theorem numberedBefore_lasting (capacity : Nat) : Rows.Lasting capacity NumberedBefore where
  nil _ := ⟨Nat.one_pos, ⟨nofun, List.nodup_nil⟩, nofun⟩
  later := by
    rintro owner next next' rows hle ⟨hnext, hnum, hold⟩
    exact ⟨hnext.trans_le hle, hnum, fun i hi => (hold i hi).trans_le (Int.ofNat_le.2 hle)⟩
  insert := by
    rintro owner next rows name order key - - ⟨hnext, ⟨hpos, hids⟩, hold⟩
    refine ⟨Nat.succ_pos _, ⟨fun i hi => ?_, ?_⟩, fun i hi => ?_⟩
    · rw [List.mem_append, List.mem_singleton] at hi
      rcases hi with hi | rfl
      · exact hpos i hi
      · exact Int.natCast_pos.2 hnext
    · rw [List.map_append, List.map_singleton, List.nodup_append_comm]
      refine List.nodup_cons.2 ⟨fun hmem => ?_, hids⟩
      obtain ⟨i, hi, heq⟩ := List.mem_map.1 hmem
      exact absurd heq (hold i hi).ne
    · rw [List.mem_append, List.mem_singleton] at hi
      rcases hi with hi | rfl
      · have hlt := hold i hi
        omega
      · dsimp only
        omega
  delete := by
    rintro owner next rows id ⟨hnext, ⟨hpos, hids⟩, hold⟩
    exact ⟨hnext, ⟨fun i hi => hpos i (List.mem_of_mem_filter hi),
      hids.sublist (List.filter_sublist.map _)⟩, fun i hi => hold i (List.mem_of_mem_filter hi)⟩
  place := by
    rintro owner next rows id order - ⟨hnext, ⟨hpos, hids⟩, hold⟩
    have hsame : ∀ i ∈ Item.reposition id order rows, ∃ j ∈ rows, j.id = i.id := by
      intro i hi
      have hmem : i.id ∈ (Item.reposition id order rows).map Item.id := List.mem_map_of_mem hi
      rw [Item.map_id_reposition] at hmem
      exact List.mem_map.1 hmem
    refine ⟨hnext, ⟨fun i hi => ?_, ?_⟩, fun i hi => ?_⟩
    · obtain ⟨j, hj, heq⟩ := hsame i hi
      exact heq ▸ hpos j hj
    · rw [Item.map_id_reposition]
      exact hids
    · obtain ⟨j, hj, heq⟩ := hsame i hi
      exact heq ▸ hold j hj

/-! ## Moves in reachable states -/

namespace Machine

variable {m : Machine}

/-- The work of a move comes to what the move comes to. -/
theorem work_move_eq_perform (granted : Bool) (mv : Move) (r : Rows) :
    let o := (mv.perform (Rows.interface granted)).runOn r
    (((Task.move mv).work granted).runOn r).result = o.result.map Reply.items ∧
      (((Task.move mv).work granted).runOn r).state = o.state := by
  rw [Task.work_move_runOn, Move.perform_runOn]
  exact ⟨rfl, rfl⟩

theorem rows_settle (ticket : Nat) (r : Except Error Reply) (m : Machine) :
    (m.settle ticket r).rows = m.rows := by
  unfold settle
  split <;> rfl

theorem steps_pair (a b : Step) (m : Machine) :
    let o := (step a).run m
    let o' := (step b).run o.state
    ((steps [a, b]).run m).result = [o.result, o'.result] ∧
      ((steps [a, b]).run m).state = o'.state :=
  ⟨rfl, rfl⟩

theorem finish_run (ticket : Nat) (task : Task) (granted : Bool) (m : Machine) :
    let o := (task.work granted).runOn m.rows
    ((finish ticket task granted).run m).result = .ended o.result ∧
      ((finish ticket task granted).run m).state =
        ({ m with rows := o.state }).settle ticket o.result :=
  ⟨rfl, rfl⟩

/-- A task that waits and holds its lock does its work. -/
theorem enter_run {ticket : Nat} {task : Task} (hwaiting : m.waiting.get? ticket = some task)
    (hholds : m.locks.holds ticket = true) :
    (step (.enter ticket)).run m = (finish ticket task true).run m := by
  simp only [step, enter, Action.run, hwaiting, hholds, if_true]

/-- A task that is not refused and whose lock nobody claims does its work at once. -/
theorem arrive_enter (h : m.Orderly) (task : Task) (hrefusal : task.refusal? = none)
    (hfree : m.locks.IsFree task.owner) :
    let o := (steps [.arrive task, .enter m.nextTicket]).run m
    let w := (task.work true).runOn m.rows
    o.result = [.arrived m.nextTicket, .ended w.result] ∧ o.state.rows = w.state := by
  intro o w
  have harrive : (step (.arrive task)).run m = ⟨.arrived m.nextTicket, { m with
      locks := m.locks.claim m.nextTicket task.owner
      waiting := m.waiting.insert m.nextTicket task
      nextTicket := m.nextTicket + 1 }, task.startEvents⟩ := by
    simp only [step, arrive, Action.run, hrefusal]
  have hholds : (m.locks.claim m.nextTicket task.owner).holds m.nextTicket = true :=
    OwnerLocks.holds_claim h.locks hfree fun c hc => (h.tickets c hc).ne
  obtain ⟨hresult, hstate⟩ := steps_pair (.arrive task) (.enter m.nextTicket) m
  rw [harrive] at hresult hstate
  dsimp only at hresult hstate
  rw [enter_run (Register.get?_insert_self _ _ _) hholds] at hresult hstate
  obtain ⟨hended, hsettled⟩ := finish_run m.nextTicket task true { m with
    locks := m.locks.claim m.nextTicket task.owner
    waiting := m.waiting.insert m.nextTicket task
    nextTicket := m.nextTicket + 1 }
  rw [hended] at hresult
  rw [hsettled] at hstate
  exact ⟨hresult, (congrArg Machine.rows hstate).trans (rows_settle _ _ _)⟩

/-- In every reachable state in which the rows of an owner are at the positions 1 to N and its
lock is free, moving the row at any position to any other succeeds.  Each of the 2N
placements on the way is made, none where another row is; what is reported is the list of
the owner's rows, from the first position to the last; the rows are reordered; and nothing
happens to the rows of others. -/
theorem move_reorders (settings : StoreSettings) (ss : List Step) (mv : Move)
    (hfree : (reached settings ss).locks.IsFree mv.owner)
    (harr : Arranged ((reached settings ss).rows.of mv.owner))
    (ho : mv.origin ∈ positions ((reached settings ss).rows.of mv.owner).length)
    (ht : mv.target ∈ positions ((reached settings ss).rows.of mv.owner).length) :
    let m := reached settings ss
    let count := (m.rows.of mv.owner).length
    let o := (steps [.arrive (.move mv), .enter m.nextTicket]).run m
    ∃ items,
      o.result = [.arrived m.nextTicket, .ended (.ok (.items items))] ∧
      (mv.journal (Rows.interface true) m.rows).placements =
        List.replicate (if mv.origin = mv.target then 0 else 2 * count) none ∧
      items = o.state.rows.list mv.owner ∧ items.map Item.order = positions count ∧
      mv.Reordered (m.rows.of mv.owner) (o.state.rows.of mv.owner) ∧
      ∀ owner, owner ≠ mv.owner → o.state.rows.of owner = m.rows.of owner := by
  intro m count o
  have hsound : m.Sound settings.maxItems NumberedBefore :=
    reached_sound (numberedBefore_lasting settings.maxItems) ss
  obtain ⟨-, hnum, -⟩ := hsound.rows.of mv.owner
  obtain ⟨hresult, hstate, hplacements⟩ := mv.perform_of_arranged m.rows hnum harr ho ht
  obtain ⟨hresult', hstate', -⟩ :=
    Move.perform_mirrors (Rows.interface true).observed_mirrors mv (m.rows, {}) m.rows rfl
  obtain ⟨hwork, hworkState⟩ := work_move_eq_perform true mv m.rows
  obtain ⟨hanswers, hrows⟩ := arrive_enter (reached_orderly settings ss) (.move mv) rfl hfree
  -- what the journal says of the observed move holds of the move that the machine makes
  have hafter : o.state.rows =
      m.rows.replace mv.owner ((m.rows.of mv.owner).map (Item.shift mv.origin mv.target)) := by
    rw [hrows, hworkState, ← hstate', hstate]
  have hof : o.state.rows.of mv.owner =
      (m.rows.of mv.owner).map (Item.shift mv.origin mv.target) := by
    rw [hafter, Rows.of_replace, Function.update_self]
  have hreordered := Move.reordered_map_shift harr ho ht
  refine ⟨o.state.rows.list mv.owner, ?_, hplacements, rfl, ?_, ?_, ?_⟩
  · rw [hanswers, hwork, ← hresult', hresult, Rows.list, hof]
    rfl
  · rw [Rows.list, hof, Item.map_order_sorted hreordered.arranged, List.length_map]
  · rw [hof]
    exact hreordered
  · intro owner hne
    rw [hafter, Rows.of_replace, Function.update_of_ne hne]

/-- Three rows that came in out of sequence: the last of them goes to the front. -/
theorem move_reorders_three :
    let ss : List Step := [.arrive (.insert "ann" "c" 3 ⟨1⟩), .enter 0,
      .arrive (.insert "ann" "a" 1 ⟨2⟩), .enter 1, .arrive (.insert "ann" "b" 2 ⟨3⟩), .enter 2]
    let m := reached { maxItems := 10 } ss
    ∃ items, ((steps [.arrive (.move ⟨.status, "ann", 3, 1⟩), .enter m.nextTicket]).run m).result =
        [.arrived m.nextTicket, .ended (.ok (.items items))] ∧
      items.map Item.order = [1, 2, 3] := by
  intro ss m
  have hstate : m.locks.claims = [] ∧ m.rows.of "ann" =
      [⟨1, ⟨1⟩, "ann", "c", 3⟩, ⟨2, ⟨2⟩, "ann", "a", 1⟩, ⟨3, ⟨3⟩, "ann", "b", 2⟩] := by
    decide +kernel
  obtain ⟨hclaims, hrows⟩ := hstate
  obtain ⟨items, hanswers, -, -, horders, -⟩ := move_reorders { maxItems := 10 } ss
    ⟨.status, "ann", 3, 1⟩ (fun c hc => absurd (hclaims ▸ hc) List.not_mem_nil)
    (by rw [hrows]; decide) (by rw [hrows]; decide) (by rw [hrows]; decide)
  rw [hrows] at horders
  exact ⟨items, hanswers, horders⟩

end Machine

end Turnstile
