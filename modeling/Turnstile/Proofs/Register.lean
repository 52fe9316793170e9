/-
# Registers as lists of pairs

A register gives values to keys, and it is a list of pairs.  No key stands twice in a
register that has been built up by setting keys, so that what it says about its keys and
which pairs are in it come to the same.
-/
import Mathlib
import Turnstile.Register

namespace Turnstile

/-- In a list without repetitions, the only one with a property is all that is left. -/
theorem filter_eq_singleton {α : Type} {p : α → Bool} {l : List α} (h : l.Nodup) {a : α}
    (ha : a ∈ l) (hpa : p a = true) (honly : ∀ b ∈ l, p b = true → b = a) : l.filter p = [a] := by
  refine List.perm_singleton.1
    ((List.perm_ext_iff_of_nodup (h.filter p) (List.nodup_singleton a)).2 fun b => ?_)
  rw [List.mem_filter, List.mem_singleton]
  exact ⟨fun ⟨hb, hpb⟩ => honly b hb hpb, fun heq => heq ▸ ⟨ha, hpa⟩⟩

namespace Register

variable {κ ν : Type} [DecidableEq κ]

theorem mem_of_findIn_eq_some {k : κ} {v : ν} {es : List (κ × ν)} (h : findIn k es = some v) :
    (k, v) ∈ es := by
  induction es with
  | nil => cases h
  | cons e es ih =>
    rw [findIn] at h
    split at h
    · next hk =>
      obtain rfl : e = (k, v) := Prod.ext hk (Option.some.inj h)
      exact List.mem_cons_self
    · exact List.mem_cons_of_mem _ (ih h)

theorem findIn_eq_none_iff {k : κ} {es : List (κ × ν)} :
    findIn k es = none ↔ k ∉ es.map Prod.fst := by
  induction es with
  | nil => simp [findIn]
  | cons e es ih =>
    rw [findIn, List.map_cons, List.mem_cons, not_or]
    split
    · next hk => exact ⟨fun h => absurd h (Option.some_ne_none _), fun h => absurd hk.symm h.1⟩
    · next hk => exact ih.trans ⟨fun h => ⟨fun heq => hk heq.symm, h⟩, fun h => h.2⟩

/-- Forgetting a key that is not there changes nothing. -/
theorem erase_of_get?_eq_none {r : Register κ ν} {k : κ}
    (h : r.get? k = none) : r.erase k = r := by
  have hkey := findIn_eq_none_iff.1 h
  rw [erase, List.filter_eq_self.2 fun e he => ?_]
  exact decide_eq_true fun heq => hkey (heq ▸ List.mem_map_of_mem he)

/-! ## Keys that stand once -/

/-- Setting a key keeps the keys, and adds this one at the end if it is new. -/
theorem map_fst_setIn (k : κ) (v : ν) (es : List (κ × ν)) :
    (setIn k v es).map Prod.fst =
      if k ∈ es.map Prod.fst then es.map Prod.fst else es.map Prod.fst ++ [k] := by
  by_cases hk : k ∈ es.map Prod.fst
  · rw [if_pos hk]
    induction es with
    | nil => cases hk
    | cons e es ih => grind [setIn]
  · rw [if_neg hk, setIn_of_notMem v hk, List.map_append, List.map_singleton]

theorem nodup_keys_insert {r : Register κ ν} (h : (r.entries.map Prod.fst).Nodup) (k : κ)
    (v : ν) : ((r.insert k v).entries.map Prod.fst).Nodup := by
  rw [insert, map_fst_setIn]
  split
  · exact h
  · next hk => exact (List.nodup_cons.2 ⟨hk, h⟩).perm (List.perm_append_singleton _ _).symm

/-- A pair is in a register without repetitions if and only if this is the value of its key. -/
theorem mem_entries_iff {r : Register κ ν} (h : (r.entries.map Prod.fst).Nodup) {k : κ} {v : ν} :
    (k, v) ∈ r.entries ↔ r.get? k = some v := by
  refine ⟨fun hmem => ?_, mem_of_findIn_eq_some⟩
  cases hget : r.get? k with
  | none => exact absurd (List.mem_map_of_mem hmem) (findIn_eq_none_iff.1 hget)
  | some v' =>
    have heq : (k, v') = (k, v) :=
      List.inj_on_of_nodup_map h (mem_of_findIn_eq_some hget) hmem rfl
    rw [(Prod.mk.inj heq).2]

/-! ## Registers that pairs build up -/

theorem ofList_append (es es' : List (κ × ν)) :
    ofList (es ++ es') = es'.foldl (fun r e => r.insert e.1 e.2) (ofList es) :=
  List.foldl_append

theorem ofList_concat (es : List (κ × ν)) (e : κ × ν) :
    ofList (es ++ [e]) = (ofList es).insert e.1 e.2 := ofList_append es [e]

theorem nodup_keys_ofList (es : List (κ × ν)) : ((ofList es).entries.map Prod.fst).Nodup := by
  induction es using List.reverseRecOn with
  | nil => exact List.nodup_nil
  | append_singleton es e ih =>
    rw [ofList_concat]
    exact nodup_keys_insert ih e.1 e.2

/-- The keys of the register are those of the pairs. -/
theorem mem_keys_ofList {es : List (κ × ν)} {k : κ} :
    k ∈ (ofList es).entries.map Prod.fst ↔ k ∈ es.map Prod.fst := by
  induction es using List.reverseRecOn with
  | nil => rfl
  | append_singleton es e ih =>
    rw [ofList_concat, insert, map_fst_setIn, List.map_append, List.map_singleton, List.mem_append,
      List.mem_singleton, ← ih]
    split
    · next hk => exact ⟨.inl, fun h => h.elim id (· ▸ hk)⟩
    · rw [List.mem_append, List.mem_singleton]

/-- Pairs with other keys that come later do not change what is said about a key. -/
theorem get?_ofList_append_of_notMem {es es' : List (κ × ν)} {k : κ}
    (h : k ∉ es'.map Prod.fst) : (ofList (es ++ es')).get? k = (ofList es).get? k := by
  induction es' using List.reverseRecOn with
  | nil => rw [List.append_nil]
  | append_singleton es' e ih =>
    rw [List.map_append, List.map_singleton, List.mem_append, List.mem_singleton, not_or] at h
    rw [← List.append_assoc, ofList_concat, get?_insert, if_neg fun heq => h.2 heq.symm, ih h.1]

/-- Of pairs with distinct keys that come last each one holds. -/
theorem get?_ofList_append_of_mem {es es' : List (κ × ν)} (h : (es'.map Prod.fst).Nodup) {k : κ}
    {v : ν} (hmem : (k, v) ∈ es') : (ofList (es ++ es')).get? k = some v := by
  obtain ⟨before, after, rfl⟩ := List.append_of_mem hmem
  have hafter : k ∉ after.map Prod.fst := by
    rw [List.map_append, List.map_cons] at h
    exact (List.nodup_cons.1 (List.nodup_append.1 h).2.1).1
  rw [List.append_cons, ← List.append_assoc, get?_ofList_append_of_notMem hafter,
    ← List.append_assoc, ofList_concat, get?_insert_self]

end Register

end Turnstile
