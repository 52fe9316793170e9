/-
# Positions, and where a move takes them

The rows of an owner are arranged if their positions are exactly 1 to N.  Taking the
position `origin` out of these and putting it back in at `target` shifts the positions
between the two by one, towards the gap; `shifted` says where each of them goes.  The plan
of a move is this shift, written down from the first new position to the last.
-/
import Mathlib
import Turnstile.Ordering.MovePlan

namespace Turnstile

/-! ## The positions 1 to N -/

@[simp] theorem length_positions (n : Nat) : (positions n).length = n := by
  simp [positions]

theorem mem_positions {n : Nat} {p : Int} : p ∈ positions n ↔ 1 ≤ p ∧ p ≤ n := by
  simp only [positions, List.mem_map, List.mem_range, Int.ofNat_eq_natCast]
  constructor
  · rintro ⟨i, hi, rfl⟩
    omega
  · rintro ⟨h1, hn⟩
    exact ⟨(p - 1).toNat, by omega, by omega⟩

theorem positions_succ (n : Nat) : positions (n + 1) = positions n ++ [(n : Int) + 1] := by
  rw [positions, List.range_succ, List.map_append]
  rfl

theorem isPosition_iff {n : Nat} {p : Int} : isPosition n p = true ↔ p ∈ positions n := by
  simp [isPosition, mem_positions]

@[simp] theorem getElem_positions {n i : Nat} (h : i < (positions n).length) :
    (positions n)[i] = (i : Int) + 1 := by
  simp [positions]

theorem nodup_positions (n : Nat) : (positions n).Nodup := by
  refine List.nodup_range.map fun i j hij => ?_
  simp only [Int.ofNat_eq_natCast] at hij
  omega

/-! ## Arranged rows -/

/-- The positions of rows are exactly 1 to N, in any sequence. -/
def Arranged (items : List Item) : Prop :=
  (items.map Item.order).Perm (positions items.length)

instance : DecidablePred Arranged :=
  fun items => inferInstanceAs (Decidable ((items.map Item.order).Perm _))

theorem Arranged.perm {items items' : List Item} (h : Arranged items)
    (hp : items.Perm items') : Arranged items' := by
  have hlen := hp.length_eq
  rw [Arranged, ← hlen]
  exact (hp.map _).symm.trans h

theorem arranged_congr {items items' : List Item} (hp : items.Perm items') :
    Arranged items ↔ Arranged items' :=
  ⟨fun h => h.perm hp, fun h => h.perm hp.symm⟩

theorem Arranged.nodup {items : List Item} (h : Arranged items) :
    (items.map Item.order).Nodup :=
  h.nodup_iff.2 (nodup_positions _)

theorem Arranged.mem_iff {items : List Item} (h : Arranged items) {p : Int} :
    p ∈ items.map Item.order ↔ 1 ≤ p ∧ p ≤ items.length := by
  rw [List.Perm.mem_iff h, mem_positions]

theorem Arranged.eq_of_order_eq {items : List Item} (h : Arranged items) {i j : Item}
    (hi : i ∈ items) (hj : j ∈ items) (hij : i.order = j.order) : i = j :=
  List.inj_on_of_nodup_map h.nodup hi hj hij

/-- N rows that fill all of the positions 1 to N fill each of them once. -/
theorem isArranged_iff {items : List Item} : isArranged items = true ↔ Arranged items := by
  simp only [isArranged, List.all_eq_true, List.any_eq_true, beq_iff_eq]
  constructor
  · intro h
    -- N positions that all occur among N rows leave no room for any other
    have hsub : positions items.length ⊆ items.map Item.order := by
      intro p hp
      obtain ⟨i, hi, rfl⟩ := h p hp
      exact List.mem_map_of_mem hi
    have hperm := (nodup_positions items.length).subperm hsub
    exact (hperm.perm_of_length_le (by simp)).symm
  · intro h p hp
    obtain ⟨i, hi, rfl⟩ := List.mem_map.1 (h.symm.subset hp)
    exact ⟨i, hi, rfl⟩

/-! ## The shift of a move -/

/-- Where the row at a position goes when the row at `origin` moves to `target`. -/
def shifted (origin target order : Int) : Int :=
  if order = origin then target
  else if origin < order ∧ order ≤ target then order - 1
  else if target ≤ order ∧ order < origin then order + 1
  else order

@[simp] theorem shifted_origin (origin target : Int) : shifted origin target origin = target := by
  simp [shifted]

@[simp] theorem shifted_self (origin order : Int) : shifted origin origin order = order := by
  unfold shifted
  split_ifs <;> omega

/-- Moving a row on from where it went is moving it there at once. -/
theorem shifted_trans (origin stop target order : Int) :
    shifted stop target (shifted origin stop order) = shifted origin target order := by
  unfold shifted
  split_ifs <;> omega

/-- Moving a row back undoes the shift. -/
@[simp] theorem shifted_shifted (origin target order : Int) :
    shifted target origin (shifted origin target order) = order := by
  rw [shifted_trans, shifted_self]

theorem shifted_injective (origin target : Int) : Function.Injective (shifted origin target) :=
  Function.LeftInverse.injective (shifted_shifted origin target)

theorem shifted_mem_positions {n : Nat} {origin target order : Int}
    (ho : origin ∈ positions n) (ht : target ∈ positions n) (h : order ∈ positions n) :
    shifted origin target order ∈ positions n := by
  rw [mem_positions] at *
  unfold shifted
  split_ifs <;> omega

/-- Rows other than the one that moves keep their relative order. -/
theorem shifted_lt_shifted_iff {origin target a b : Int} (ha : a ≠ origin) (hb : b ≠ origin) :
    shifted origin target a < shifted origin target b ↔ a < b := by
  unfold shifted
  split_ifs <;> omega

theorem positions_map_shifted_perm {n : Nat} {origin target : Int}
    (ho : origin ∈ positions n) (ht : target ∈ positions n) :
    ((positions n).map (shifted origin target)).Perm (positions n) := by
  refine (List.Nodup.subperm ?_ ?_).perm_of_length_le (by simp)
  · exact (nodup_positions n).map (shifted_injective origin target)
  · intro p hp
    obtain ⟨o, hmem, rfl⟩ := List.mem_map.1 hp
    exact shifted_mem_positions ho ht hmem

/-- The sequence in which the old positions stand after the move. -/
theorem moved_eq_map {n : Nat} {origin target : Int} (ho : origin ∈ positions n)
    (ht : target ∈ positions n) :
    moved n origin target = (positions n).map (shifted target origin) := by
  rw [mem_positions] at ho ht
  have hidx : (positions n).idxOf origin = (origin - 1).toNat := by
    have hlt : (origin - 1).toNat < (positions n).length := by
      rw [length_positions]
      omega
    have hget : (positions n)[(origin - 1).toNat] = origin := by
      rw [getElem_positions]
      omega
    rw [← (nodup_positions n).idxOf_getElem _ hlt, hget]
  have herase : (positions n).erase origin = (positions n).eraseIdx (origin - 1).toNat :=
    List.erase_eq_eraseIdx_of_idxOf hidx
  apply List.ext_getElem
  · simp only [moved, herase, List.length_map, length_positions]
    rw [List.length_insertIdx, List.length_eraseIdx, length_positions]
    split_ifs <;> omega
  · -- before the target, at it and behind it, on either side of the gap
    intro i hi hi'
    simp only [moved, herase, List.getElem_insertIdx, List.getElem_eraseIdx, getElem_positions,
      List.getElem_map]
    unfold shifted
    split_ifs <;> omega

example : moved 5 4 2 = [1, 4, 2, 3, 5] := by decide

/-! ## Plans -/

theorem idAt?_eq_some_iff {items : List Item} (h : Arranged items) {p id : Int} :
    idAt? items p = some id ↔ ∃ i ∈ items, i.order = p ∧ i.id = id := by
  simp only [idAt?, Option.map_eq_some_iff]
  constructor
  · rintro ⟨i, hi, rfl⟩
    exact ⟨i, List.mem_of_find?_eq_some hi, by simpa using List.find?_some hi, rfl⟩
  · rintro ⟨i, hi, rfl, rfl⟩
    have hsome : (items.find? fun j => j.order == i.order).isSome := by
      rw [List.find?_isSome]
      exact ⟨i, hi, by simp⟩
    obtain ⟨j, hj⟩ := Option.isSome_iff_exists.1 hsome
    have hij : j = i := h.eq_of_order_eq (List.mem_of_find?_eq_some hj) hi
      (by simpa using List.find?_some hj)
    exact ⟨j, hj, by rw [hij]⟩

/-- A plan reads off every new position which id is to go there. -/
theorem planOf_eq_filterMap {items : List Item} {origin target : Int}
    (ho : origin ∈ positions items.length) (ht : target ∈ positions items.length) :
    planOf items origin target = (positions items.length).filterMap fun p =>
      (idAt? items (shifted target origin p)).map fun id => (id, p) := by
  have hzip : (moved items.length origin target).zip (positions items.length) =
      (positions items.length).map fun p => (shifted target origin p, p) := by
    rw [moved_eq_map ho ht, List.zip_eq_zipWith, List.zipWith_map_left, List.zipWith_self]
  rw [planOf, hzip, List.filterMap_map]
  rfl

/-- A plan sends the id of every row to the position that the shift gives it. -/
theorem mem_planOf_iff {items : List Item} (h : Arranged items) {origin target : Int}
    (ho : origin ∈ positions items.length) (ht : target ∈ positions items.length)
    {p : Int × Int} :
    p ∈ planOf items origin target ↔
      ∃ i ∈ items, p = (i.id, shifted origin target i.order) := by
  rw [planOf_eq_filterMap ho ht]
  simp only [List.mem_filterMap, Option.map_eq_some_iff, idAt?_eq_some_iff h]
  constructor
  · rintro ⟨q, hq, id, ⟨i, hi, horder, rfl⟩, rfl⟩
    exact ⟨i, hi, by rw [horder, shifted_shifted]⟩
  · rintro ⟨i, hi, rfl⟩
    have hpos : i.order ∈ positions items.length := h.subset (List.mem_map_of_mem hi)
    exact ⟨_, shifted_mem_positions ho ht hpos, i.id, ⟨i, hi, by rw [shifted_shifted], rfl⟩, rfl⟩

/-- The new positions of a plan are 1 to N, in sequence. -/
theorem map_snd_planOf {items : List Item} (h : Arranged items) {origin target : Int}
    (ho : origin ∈ positions items.length) (ht : target ∈ positions items.length) :
    (planOf items origin target).map Prod.snd = positions items.length := by
  have hsome : ∀ p ∈ positions items.length,
      ((idAt? items (shifted target origin p)).map fun id => (id, p)).map Prod.snd = some p := by
    intro p hp
    have hmem : shifted target origin p ∈ items.map Item.order :=
      h.symm.subset (shifted_mem_positions ht ho hp)
    obtain ⟨i, hi, horder⟩ := List.mem_map.1 hmem
    rw [(idAt?_eq_some_iff h).2 ⟨i, hi, horder, rfl⟩]
    rfl
  rw [planOf_eq_filterMap ho ht, List.map_filterMap, List.filterMap_congr hsome,
    List.filterMap_some]

theorem length_planOf {items : List Item} (h : Arranged items) {origin target : Int}
    (ho : origin ∈ positions items.length) (ht : target ∈ positions items.length) :
    (planOf items origin target).length = items.length := by
  rw [← List.length_map Prod.snd, map_snd_planOf h ho ht, length_positions]

/-! ## Rows that are moved -/

namespace Item

/-- A row, moved along with the shift of a move. -/
def shift (origin target : Int) (i : Item) : Item :=
  { i with order := shifted origin target i.order }

@[simp] theorem shift_self (origin : Int) : shift origin origin = fun i => i := by
  funext i
  rw [shift, shifted_self]

theorem map_shift_map_shift (origin stop target : Int) (items : List Item) :
    (items.map (shift origin stop)).map (shift stop target) = items.map (shift origin target) := by
  rw [List.map_map]
  refine List.map_congr_left fun i _ => ?_
  rw [Function.comp_apply, shift, shift, shifted_trans, shift]

theorem sorted_pairwise (items : List Item) :
    (sorted items).Pairwise fun a b => a.order ≤ b.order := by
  have h : (sorted items).Pairwise fun a b => decide (a.order ≤ b.order) = true :=
    List.pairwise_mergeSort (fun a b c hab hbc => by simp only [decide_eq_true_eq] at *; omega)
      (fun a b => by simp only [Bool.or_eq_true, decide_eq_true_eq]; omega) items
  exact h.imp fun hab => by simpa using hab

/-! ### Placing rows one after the other -/

/-- The rows after placements have been made one after the other. -/
def repositionAll (ps : List (Int × Int)) (items : List Item) : List Item :=
  ps.foldl (fun is p => reposition p.1 p.2 is) items

/-- Where a row ends up by placements that are made one after the other. -/
def settled (ps : List (Int × Int)) (id order : Int) : Int :=
  ps.foldl (fun o p => if p.1 = id then p.2 else o) order

theorem repositionAll_eq_map (ps : List (Int × Int)) (items : List Item) :
    repositionAll ps items = items.map fun i => { i with order := settled ps i.id i.order } := by
  induction ps generalizing items with
  | nil => simp [repositionAll, settled]
  | cons p ps ih =>
    have hstep : repositionAll (p :: ps) items = repositionAll ps (reposition p.1 p.2 items) := rfl
    rw [hstep, ih, reposition, List.map_map]
    refine List.map_congr_left fun i _ => ?_
    by_cases hid : i.id = p.1
    · simp [settled, hid]
    · have hid' : p.1 ≠ i.id := fun h => hid h.symm
      simp [settled, hid, hid']

theorem settled_append (ps qs : List (Int × Int)) (id order : Int) :
    settled (ps ++ qs) id order = settled qs id (settled ps id order) :=
  List.foldl_append

/-- A row ends up where the placements of its id agree to put it. -/
theorem settled_eq {ps : List (Int × Int)} {id order p : Int} (hmem : (id, p) ∈ ps)
    (hagree : ∀ q ∈ ps, q.1 = id → q.2 = p) : settled ps id order = p := by
  -- once the row is where it belongs it stays there, and some placement brings it there
  have hstay : ∀ qs : List (Int × Int), (∀ q ∈ qs, q.1 = id → q.2 = p) →
      settled qs id p = p := by
    intro qs hqs
    induction qs with
    | nil => rfl
    | cons q qs ih =>
      have hq := hqs q List.mem_cons_self
      have hrest := ih fun r hr => hqs r (List.mem_cons_of_mem _ hr)
      simp only [settled, List.foldl_cons] at hrest ⊢
      split
      · next heq => rw [hq heq, hrest]
      · exact hrest
  obtain ⟨before, after, rfl⟩ := List.append_of_mem hmem
  rw [settled_append]
  have hafter := hstay after fun q hq hid =>
    hagree q (List.mem_append_right _ (List.mem_cons_of_mem _ hq)) hid
  simpa [settled] using hafter

end Item

/-- The placements that park rows on the negatives of their ids. -/
def parkings (items : List Item) : List (Int × Int) := items.map fun i => (i.id, -i.id)

/-- Parking all rows and placing them by the plan of a move shifts them, wherever they are
kept, as long as their ids tell them apart. -/
theorem repositionAll_planOf {items rows : List Item} (h : Arranged items)
    (hp : items.Perm rows) (hids : (rows.map Item.id).Nodup) {origin target : Int}
    (ho : origin ∈ positions items.length) (ht : target ∈ positions items.length) :
    Item.repositionAll (parkings items ++ planOf items origin target) rows =
      rows.map (Item.shift origin target) := by
  rw [Item.repositionAll_eq_map]
  refine List.map_congr_left fun i hi => ?_
  have hmem : (i.id, shifted origin target i.order) ∈ planOf items origin target :=
    (mem_planOf_iff h ho ht).2 ⟨i, hp.symm.subset hi, rfl⟩
  have hagree : ∀ q ∈ planOf items origin target, q.1 = i.id →
      q.2 = shifted origin target i.order := by
    intro q hq hid
    obtain ⟨j, hj, rfl⟩ := (mem_planOf_iff h ho ht).1 hq
    obtain rfl : j = i := List.inj_on_of_nodup_map hids (hp.subset hj) hi hid
    rfl
  rw [Item.settled_append, Item.settled_eq hmem hagree, Item.shift]

/-- Arranged rows stay arranged when one of them moves. -/
theorem Arranged.map_shift {items : List Item} (h : Arranged items) {origin target : Int}
    (ho : origin ∈ positions items.length) (ht : target ∈ positions items.length) :
    Arranged (items.map (Item.shift origin target)) := by
  have horders : (items.map (Item.shift origin target)).map Item.order =
      (items.map Item.order).map (shifted origin target) := by
    simp [Item.shift, Function.comp_def]
  rw [Arranged, horders, List.length_map]
  exact (h.map _).trans (positions_map_shifted_perm ho ht)

end Turnstile
