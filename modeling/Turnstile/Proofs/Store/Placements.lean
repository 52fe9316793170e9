/-
# Placements that never collide

A transaction refuses to place a row where another row is, or a row that is not there.
Placements are clear, given the rows, if none of them is refused when they are made one
after the other.  This needs no look at the rows in between: it is enough that the ids are
those of rows and that the positions are new and differ from each other.

A move places its rows twice.  Parking goes from positive positions to negative ones and
placing by the plan goes back, so both are clear.
-/
import Turnstile.Proofs.Ordering.Failure
import Turnstile.Store.Rows

namespace Turnstile

/-! ## Clear placements -/

namespace Item

/-- Whether placements are made one after the other without one being refused. -/
def Clear : List (Int × Int) → List Item → Prop
  | [], _ => True
  | p :: ps, items => p.1 ∈ items.map id ∧ (∀ i ∈ items, i.id ≠ p.1 → i.order ≠ p.2) ∧
      Clear ps (reposition p.1 p.2 items)

theorem map_id_reposition (id order : Int) (items : List Item) :
    (reposition id order items).map Item.id = items.map Item.id := by
  rw [reposition, List.map_map]
  refine List.map_congr_left fun i _ => ?_
  dsimp only [Function.comp]
  split <;> rfl

theorem map_id_repositionAll (ps : List (Int × Int)) (items : List Item) :
    (repositionAll ps items).map Item.id = items.map Item.id := by
  rw [repositionAll_eq_map, List.map_map]
  rfl

/-- A row that has been placed is at its new position, any other one is where it was. -/
theorem mem_reposition {id order : Int} {items : List Item} {i : Item}
    (h : i ∈ reposition id order items) : i.order = order ∨ i ∈ items := by
  rw [reposition, List.mem_map] at h
  obtain ⟨j, hj, rfl⟩ := h
  split
  · exact .inl rfl
  · exact .inr hj

theorem clear_append {ps qs : List (Int × Int)} {items : List Item} :
    Clear (ps ++ qs) items ↔ Clear ps items ∧ Clear qs (repositionAll ps items) := by
  induction ps generalizing items with
  | nil => exact ⟨fun h => ⟨trivial, h⟩, fun h => h.2⟩
  | cons p ps ih =>
    simp only [List.cons_append, Clear, ih, and_assoc]
    rfl

/-- Placements at new positions that differ from each other are clear. -/
theorem clear_of_nodup {ps : List (Int × Int)} {items : List Item}
    (hids : ∀ p ∈ ps, p.1 ∈ items.map Item.id) (hps : (ps.map Prod.snd).Nodup)
    (hnew : ∀ p ∈ ps, ∀ i ∈ items, i.order ≠ p.2) : Clear ps items := by
  induction ps generalizing items with
  | nil => trivial
  | cons p ps ih =>
    rw [List.map_cons, List.nodup_cons] at hps
    have hp := List.mem_cons_self (a := p) (l := ps)
    refine ⟨hids p hp, fun i hi _ => hnew p hp i hi, ih (fun q hq => ?_) hps.2 fun q hq i hi => ?_⟩
    · rw [map_id_reposition]
      exact hids q (List.mem_cons_of_mem _ hq)
    · -- the position that has just been filled is none of those still to come
      rcases mem_reposition hi with horder | hmem
      · rw [horder]
        rintro heq
        exact hps.1 (heq ▸ List.mem_map_of_mem hq)
      · exact hnew q (List.mem_cons_of_mem _ hq) i hmem

end Item

/-! ## The placements of a move -/

/-- Rows whose ids are positive and tell them apart. -/
def Numbered (items : List Item) : Prop := (∀ i ∈ items, 0 < i.id) ∧ (items.map Item.id).Nodup

theorem Numbered.perm {items items' : List Item} (h : Numbered items) (hp : items.Perm items') :
    Numbered items' :=
  ⟨fun i hi => h.1 i (hp.symm.subset hi), (hp.map _).nodup_iff.1 h.2⟩

/-- Parking is clear for rows at positive positions. -/
theorem clear_parkings {items rows : List Item} (hp : items.Perm rows) (h : Numbered items)
    (hpos : ∀ i ∈ rows, 0 < i.order) : Item.Clear (parkings items) rows := by
  refine Item.clear_of_nodup ?_ ?_ ?_
  · intro p hmem
    obtain ⟨i, hi, rfl⟩ := List.mem_map.1 hmem
    exact List.mem_map_of_mem (hp.subset hi)
  · have hsnd : (parkings items).map Prod.snd = (items.map Item.id).map fun id => -id := by
      rw [parkings, List.map_map, List.map_map]
      rfl
    rw [hsnd]
    exact h.2.map neg_injective
  · intro p hmem i hi
    obtain ⟨j, hj, rfl⟩ := List.mem_map.1 hmem
    have hi' := hpos i hi
    have hj' := h.1 j hj
    dsimp only
    omega

/-- Parked rows are at the negatives of their ids. -/
theorem order_of_mem_parked {items rows : List Item} (hp : items.Perm rows) {i : Item}
    (hi : i ∈ Item.repositionAll (parkings items) rows) : i.order = -i.id := by
  rw [Item.repositionAll_eq_map] at hi
  obtain ⟨j, hj, rfl⟩ := List.mem_map.1 hi
  refine Item.settled_eq (List.mem_map.2 ⟨j, hp.symm.subset hj, rfl⟩) fun q hq hid => ?_
  obtain ⟨k, -, rfl⟩ := List.mem_map.1 hq
  rw [← hid]

/-- All placements of a move are clear, in whatever sequence the rows are kept. -/
theorem clear_planOf {items rows : List Item} (hp : items.Perm rows) (h : Numbered items)
    (harr : Arranged items) {origin target : Int} (ho : origin ∈ positions items.length)
    (ht : target ∈ positions items.length) :
    Item.Clear (parkings items ++ planOf items origin target) rows := by
  have hpos : ∀ i ∈ rows, 0 < i.order := by
    intro i hi
    have hmem := harr.mem_iff.1 (List.mem_map_of_mem (hp.symm.subset hi))
    omega
  refine Item.clear_append.2 ⟨clear_parkings hp h hpos, Item.clear_of_nodup ?_ ?_ ?_⟩
  · intro p hmem
    obtain ⟨i, hi, rfl⟩ := (mem_planOf_iff harr ho ht).1 hmem
    rw [Item.map_id_repositionAll]
    exact List.mem_map_of_mem (hp.subset hi)
  · rw [map_snd_planOf harr ho ht]
    exact nodup_positions _
  · intro p hmem i hi
    -- the rows are parked at negative positions by now, and those of the plan are positive
    have hp' : p.2 ∈ positions items.length := by
      rw [← map_snd_planOf harr ho ht]
      exact List.mem_map_of_mem hmem
    have hid : i.id ∈ rows.map Item.id := by
      rw [← Item.map_id_repositionAll (parkings items)]
      exact List.mem_map_of_mem hi
    obtain ⟨j, hj, hji⟩ := List.mem_map.1 hid
    have hpositive := h.1 j (hp.symm.subset hj)
    have hparked := order_of_mem_parked hp hi
    rw [mem_positions] at hp'
    omega

end Turnstile
