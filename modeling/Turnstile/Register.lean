/-
# Registers

A register assigns values to finitely many keys.  It is a list of pairs in the order in
which the keys first came in; a key that is set again keeps its place.  What a register
says about a key is its `get?`, and the lemmas here give `get?` after each operation.
-/

namespace Turnstile

/-- A finite assignment of values to keys, in the order in which the keys came in. -/
structure Register (κ ν : Type) where
  /-- The pairs of the register. -/
  entries : List (κ × ν) := []
deriving DecidableEq, Repr

namespace Register

variable {κ ν : Type} [DecidableEq κ]

/-- Sets a key in a list of pairs: in its place if it is there, else at the end. -/
def setIn (k : κ) (v : ν) : List (κ × ν) → List (κ × ν)
  | [] => [(k, v)]
  | e :: es => if e.1 = k then (k, v) :: es else e :: setIn k v es

/-- The value that a list of pairs gives to a key. -/
def findIn (k : κ) : List (κ × ν) → Option ν
  | [] => none
  | e :: es => if e.1 = k then some e.2 else findIn k es

/-- The value of a key, if the register has one. -/
def get? (r : Register κ ν) (k : κ) : Option ν := findIn k r.entries

/-- The value of a key, or the given value if the register has none. -/
def getD (r : Register κ ν) (k : κ) (d : ν) : ν := (r.get? k).getD d

/-- Sets the value of a key. -/
def insert (r : Register κ ν) (k : κ) (v : ν) : Register κ ν := ⟨setIn k v r.entries⟩

/-- Forgets a key. -/
def erase (r : Register κ ν) (k : κ) : Register κ ν :=
  ⟨r.entries.filter fun e => decide (e.1 ≠ k)⟩

/-- The number of keys. -/
def size (r : Register κ ν) : Nat := r.entries.length

/-- The register that the given pairs build up, later pairs winning. -/
def ofList (es : List (κ × ν)) : Register κ ν := es.foldl (fun r e => r.insert e.1 e.2) {}

/-! ## What a register says after each operation -/

@[simp] theorem get?_empty (k : κ) : (({} : Register κ ν)).get? k = none := rfl

theorem findIn_setIn (k l : κ) (v : ν) (es : List (κ × ν)) :
    findIn l (setIn k v es) = if k = l then some v else findIn l es := by
  induction es with
  | nil => simp [setIn, findIn]
  | cons e es ih => grind [setIn, findIn]

@[simp] theorem get?_insert_self (r : Register κ ν) (k : κ) (v : ν) :
    (r.insert k v).get? k = some v := by
  simp [get?, insert, findIn_setIn]

theorem get?_insert (r : Register κ ν) (k l : κ) (v : ν) :
    (r.insert k v).get? l = if k = l then some v else r.get? l := by
  simp [get?, insert, findIn_setIn]

theorem findIn_filter (k l : κ) (es : List (κ × ν)) :
    findIn l (es.filter fun e => decide (e.1 ≠ k)) = if k = l then none else findIn l es := by
  induction es with
  | nil => simp [findIn]
  | cons e es ih => grind [findIn]

theorem get?_erase (r : Register κ ν) (k l : κ) :
    (r.erase k).get? l = if k = l then none else r.get? l := by
  simpa [get?, erase] using findIn_filter k l r.entries

/-- What a register says after a key has been forgotten, it said before. -/
theorem get?_of_erase {r : Register κ ν} {k l : κ} {v : ν} (h : (r.erase k).get? l = some v) :
    r.get? l = some v := by
  rw [get?_erase] at h
  split at h
  · cases h
  · exact h

/-! ## Setting a key again -/

theorem setIn_setIn (k : κ) (u v : ν) (es : List (κ × ν)) :
    setIn k v (setIn k u es) = setIn k v es := by
  induction es with
  | nil => simp [setIn]
  | cons e es ih => grind [setIn]

/-- What is set twice has the second value, in the same place. -/
@[simp] theorem insert_insert (r : Register κ ν) (k : κ) (u v : ν) :
    (r.insert k u).insert k v = r.insert k v :=
  congrArg mk (setIn_setIn k u v r.entries)

theorem setIn_of_findIn {k : κ} {v : ν} {es : List (κ × ν)} (h : findIn k es = some v) :
    setIn k v es = es := by
  induction es with
  | nil => cases h
  | cons e es ih => grind [setIn, findIn]

/-- Setting a key to the value that it has changes nothing. -/
theorem insert_of_get? {r : Register κ ν} {k : κ} {v : ν} (h : r.get? k = some v) :
    r.insert k v = r :=
  congrArg mk (setIn_of_findIn h)

/-! ## Registers that are built from pairs -/

theorem setIn_of_notMem {k : κ} (v : ν) {es : List (κ × ν)} (h : k ∉ es.map Prod.fst) :
    setIn k v es = es ++ [(k, v)] := by
  induction es with
  | nil => rfl
  | cons e es ih =>
    rw [List.map_cons, List.mem_cons, not_or] at h
    obtain ⟨hne, hrest⟩ := h
    rw [setIn, if_neg fun heq => hne heq.symm, ih hrest, List.cons_append]

/-- Pairs with distinct keys build up the register that has just these pairs. -/
theorem entries_ofList {es : List (κ × ν)} (h : (es.map Prod.fst).Nodup) :
    (ofList es).entries = es := by
  -- the pairs that are in stand before those that are still to come
  suffices hfold : ∀ (es : List (κ × ν)) (r : Register κ ν),
      ((r.entries ++ es).map Prod.fst).Nodup →
      (es.foldl (fun r e => r.insert e.1 e.2) r).entries = r.entries ++ es by
    exact hfold es {} h
  intro es
  induction es with
  | nil => exact fun r _ => (List.append_nil _).symm
  | cons e es ih =>
    intro r hnodup
    have hnew : e.1 ∉ r.entries.map Prod.fst := by
      rw [List.map_append, List.nodup_append] at hnodup
      exact fun hmem => hnodup.2.2 e.1 hmem e.1 List.mem_cons_self rfl
    have hinsert : (r.insert e.1 e.2).entries = r.entries ++ [e] := setIn_of_notMem e.2 hnew
    have hsplit : r.entries ++ e :: es = (r.entries ++ [e]) ++ es :=
      List.append_cons r.entries e es
    rw [List.foldl_cons, ih, hinsert, hsplit]
    rw [hinsert, ← hsplit]
    exact hnodup

end Register

end Turnstile
