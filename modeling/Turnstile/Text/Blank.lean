/-
# Blank characters and trimming

The blank characters are those with the Unicode property `White_Space`: 25 code points,
among them the no-break space and the ideographic space, but neither the zero-width space
nor the byte order mark.  Trimming takes them off both ends of a text.
-/

namespace Turnstile.Text

/-- Whether a character has the Unicode property `White_Space`. -/
def isBlank (c : Char) : Bool :=
  let n := c.toNat
  (9 ≤ n && n ≤ 13) || n == 0x20 || n == 0x85 || n == 0xA0 || n == 0x1680 ||
    (0x2000 ≤ n && n ≤ 0x200A) || n == 0x2028 || n == 0x2029 || n == 0x202F ||
    n == 0x205F || n == 0x3000

/-- The rest of a list after the letters at its front that satisfy `p`, with those at its
end removed too. -/
def trimBy (p : Char → Bool) (cs : List Char) : List Char :=
  ((cs.dropWhile p).reverse.dropWhile p).reverse

/-- The letters of a text without the blanks at either end. -/
def trimList (cs : List Char) : List Char := trimBy isBlank cs

/-- A text without the blanks at either end. -/
def trim (s : String) : String := String.ofList (trimList s.toList)

/-- Whether a text consists of blanks only. -/
def isBlankText (s : String) : Bool := s.toList.all isBlank

theorem trimBy_eq_nil_iff (p : Char → Bool) (cs : List Char) :
    trimBy p cs = [] ↔ ∀ c ∈ cs, p c = true := by
  have aux : ∀ ds : List Char, ds.dropWhile p = [] ↔ ∀ c ∈ ds, p c = true := by
    intro ds
    induction ds with
    | nil => simp
    | cons d ds ih => by_cases h : p d <;> simp [h, ih]
  constructor
  · intro h
    have h' : (cs.dropWhile p).reverse.dropWhile p = [] := by
      simpa [trimBy] using h
    have hall := (aux _).1 h'
    apply (aux cs).1
    cases hd : cs.dropWhile p with
    | nil => rfl
    | cons d ds =>
      have hp : p d = true := hall d (by simp [hd])
      have hn : p d = false := by
        have := List.head_dropWhile_not p (by simp [hd] : cs.dropWhile p ≠ [])
        simpa [hd] using this
      simp [hp] at hn
  · intro h
    have h1 : cs.dropWhile p = [] := (aux cs).2 h
    simp [trimBy, h1]

/-- What stands at the ends of a list and is trimmed off makes no difference. -/
theorem trimBy_append_append {p : Char → Bool} {front back : List Char}
    (hfront : ∀ c ∈ front, p c = true) (hback : ∀ c ∈ back, p c = true) (cs : List Char) :
    trimBy p (front ++ cs ++ back) = trimBy p cs := by
  have hback' : ∀ c ∈ back.reverse, p c = true := fun c hc => hback c (List.mem_reverse.1 hc)
  rw [trimBy, trimBy, List.append_assoc, List.dropWhile_append_of_pos hfront, List.dropWhile_append]
  split
  · next hnil =>
    rw [List.isEmpty_iff.1 hnil]
    simp only [List.reverse_nil, List.dropWhile_nil]
    rw [← trimBy, trimBy_eq_nil_iff]
    exact hback
  · rw [List.reverse_append, List.dropWhile_append_of_pos hback']

theorem trimBy_dropWhile (p : Char → Bool) (cs : List Char) :
    trimBy p (cs.dropWhile p) = trimBy p cs := by
  have h : trimBy p (cs.takeWhile p ++ cs.dropWhile p ++ []) = trimBy p (cs.dropWhile p) :=
    trimBy_append_append (fun c hc => List.all_eq_true.1 List.all_takeWhile c hc) (by simp) _
  rw [List.append_nil, List.takeWhile_append_dropWhile] at h
  exact h.symm

theorem trimBy_reverse_dropWhile (p : Char → Bool) (cs : List Char) :
    trimBy p (cs.reverse.dropWhile p).reverse = trimBy p cs := by
  have h : trimBy p ([] ++ (cs.reverse.dropWhile p).reverse ++ (cs.reverse.takeWhile p).reverse) =
      trimBy p (cs.reverse.dropWhile p).reverse :=
    trimBy_append_append (by simp)
      (fun c hc => List.all_eq_true.1 List.all_takeWhile c (List.mem_reverse.1 hc)) _
  rw [List.nil_append, ← List.reverse_append, List.takeWhile_append_dropWhile,
    List.reverse_reverse] at h
  exact h.symm

/-- A list that begins and ends with letters that stay is not changed. -/
theorem trimBy_of_ends {p : Char → Bool} {c d : Char} (hc : p c = false) (hd : p d = false)
    (cs : List Char) : trimBy p (c :: cs ++ [d]) = c :: cs ++ [d] := by
  simp [trimBy, hc, hd]

/-- A list of letters that stay is not changed. -/
theorem trimBy_of_forall_not {p : Char → Bool} {cs : List Char} (h : ∀ c ∈ cs, p c = false) :
    trimBy p cs = cs := by
  have hdrop : ∀ ds : List Char, (∀ d ∈ ds, p d = false) → ds.dropWhile p = ds := by
    intro ds hds
    cases ds with
    | nil => rfl
    | cons d ds => simp [hds d List.mem_cons_self]
  rw [trimBy, hdrop cs h, hdrop _ fun c hc => h c (List.mem_reverse.1 hc), List.reverse_reverse]

/-- Around a letter that stays, what stands before it is trimmed at the front only and what
follows it at the end only. -/
theorem trimBy_append_cons {p : Char → Bool} {c : Char} (hc : p c = false) (as bs : List Char) :
    trimBy p (as ++ c :: bs) = as.dropWhile p ++ c :: (bs.reverse.dropWhile p).reverse := by
  have hfront : (as ++ c :: bs).dropWhile p = as.dropWhile p ++ c :: bs := by
    rw [List.dropWhile_append]
    split
    · next hnil => simp [List.isEmpty_iff.1 hnil, hc]
    · rfl
  have hback : (bs.reverse ++ c :: (as.dropWhile p).reverse).dropWhile p =
      bs.reverse.dropWhile p ++ c :: (as.dropWhile p).reverse := by
    rw [List.dropWhile_append]
    split
    · next hnil => simp [List.isEmpty_iff.1 hnil, hc]
    · rfl
  rw [trimBy, hfront]
  simp [hback]

/-- Trimming leaves nothing exactly of the texts that consist of blanks only. -/
theorem trimList_eq_nil_iff (cs : List Char) : trimList cs = [] ↔ cs.all isBlank = true := by
  simp [trimList, trimBy_eq_nil_iff]

end Turnstile.Text
