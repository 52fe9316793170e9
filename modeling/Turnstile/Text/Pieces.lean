/-
# Cutting texts at separators

`pieces` cuts a list of letters at every separator, `cutAt` at the first one only.  A list
without separators is one piece, and the pieces of a list are separator-free.
-/

namespace Turnstile.Text

/-- The pieces between the separators; there is always at least one. -/
def pieces (sep : Char → Bool) : List Char → List (List Char)
  | [] => [[]]
  | c :: cs =>
    if sep c then [] :: pieces sep cs
    else match pieces sep cs with
      | [] => [[c]]
      | p :: ps => (c :: p) :: ps

/-- What stands before and after the first separator, if there is one. -/
def cutAt (sep : Char → Bool) : List Char → Option (List Char × List Char)
  | [] => none
  | c :: cs => if sep c then some ([], cs) else (cutAt sep cs).map fun p => (c :: p.1, p.2)

theorem pieces_ne_nil (sep : Char → Bool) (cs : List Char) : pieces sep cs ≠ [] := by
  cases cs with
  | nil => simp [pieces]
  | cons c cs =>
    unfold pieces
    split
    · simp
    · split <;> simp

theorem pieces_of_forall_not (sep : Char → Bool) (cs : List Char)
    (h : ∀ c ∈ cs, sep c = false) : pieces sep cs = [cs] := by
  induction cs with
  | nil => rfl
  | cons c cs ih =>
    have hc : sep c = false := h c (by simp)
    have := ih fun d hd => h d (by simp [hd])
    simp [pieces, hc, this]

/-- A separator divides the pieces into those before it and those behind it. -/
theorem pieces_append_cons {sep : Char → Bool} {c : Char} (hc : sep c = true)
    (cs ds : List Char) : pieces sep (cs ++ c :: ds) = pieces sep cs ++ pieces sep ds := by
  induction cs with
  | nil => simp [pieces, hc]
  | cons x xs ih =>
    cases hx : sep x with
    | true => simp [pieces, hx, ih]
    | false =>
      cases hxs : pieces sep xs with
      | nil => exact absurd hxs (pieces_ne_nil sep xs)
      | cons q qs => simp [pieces, hx, ih, hxs]

/-- What begins without separators is all in the first piece. -/
theorem pieces_append_of_forall_not {sep : Char → Bool} {cs : List Char}
    (h : ∀ c ∈ cs, sep c = false) (ds : List Char) :
    pieces sep (cs ++ ds) = (cs ++ (pieces sep ds).headD []) :: (pieces sep ds).tail := by
  induction cs with
  | nil =>
    cases hds : pieces sep ds with
    | nil => exact absurd hds (pieces_ne_nil sep ds)
    | cons q qs => simp [hds]
  | cons x xs ih =>
    have hx : sep x = false := h x (by simp)
    simp [pieces, hx, ih fun c hc => h c (by simp [hc])]

/-- The first piece is what stands before the first separator. -/
theorem headD_pieces (sep : Char → Bool) (cs : List Char) :
    (pieces sep cs).headD [] = cs.takeWhile fun c => !sep c := by
  induction cs with
  | nil => rfl
  | cons x xs ih =>
    cases hx : sep x with
    | true => simp [pieces, hx]
    | false =>
      cases hxs : pieces sep xs with
      | nil => exact absurd hxs (pieces_ne_nil sep xs)
      | cons q qs =>
        rw [hxs] at ih
        simp [pieces, hx, hxs, ← ih]

theorem cutAt_append_cons (sep : Char → Bool) (cs ds : List Char) (c : Char)
    (h : ∀ x ∈ cs, sep x = false) (hc : sep c = true) :
    cutAt sep (cs ++ c :: ds) = some (cs, ds) := by
  induction cs with
  | nil => simp [cutAt, hc]
  | cons x xs ih =>
    have hx : sep x = false := h x (by simp)
    have := ih fun d hd => h d (by simp [hd])
    simp [cutAt, hx, this]

end Turnstile.Text
