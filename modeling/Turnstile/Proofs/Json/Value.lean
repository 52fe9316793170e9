/-
# Written values read back

What is written for a value is followed by a comma, a closing bracket or the end of the text.
A reader that goes on to such a place takes just the written value: digits end there, since
none of these can be part of a numeral.  `IsReadAs` says so of a reader and a text, and the
lemmas here give it for counts, flags, texts and arrays.
-/
import Turnstile.Json.Reader
import Turnstile.Proofs.Json.Text

namespace Turnstile.Json

variable {α : Type} {read : Reader α} {text rest : List Char} {a : α}

/-! ## What follows a value -/

/-- Whether a value is followed by a comma, a closing bracket or the end of the text. -/
def IsEnded (rest : List Char) : Prop := ∀ c ∈ rest.head?, c = ',' ∨ c = ']' ∨ c = '\x7d'

theorem isEnded_nil : IsEnded [] := nofun

theorem isEnded_comma (cs : List Char) : IsEnded (',' :: cs) := by simp [IsEnded]

theorem isEnded_bracket (cs : List Char) : IsEnded (']' :: cs) := by simp [IsEnded]

theorem isEnded_brace (cs : List Char) : IsEnded ('\x7d' :: cs) := by simp [IsEnded]

/-- A text is read as a value if it begins like one and the reader takes just that text from
the front of any text in which the value ends there. -/
structure IsReadAs (read : Reader α) (text : List Char) (a : α) : Prop where
  opens : ∃ c cs, text = c :: cs ∧ isSpace c = false ∧ c ≠ ']'
  eq : ∀ rest, IsEnded rest → read (text ++ rest) = .ok (a, rest)

theorem skipSpace_cons {c : Char} (h : isSpace c = false) (cs : List Char) :
    skipSpace (c :: cs) = c :: cs := by
  simp [skipSpace, h]

/-- A text that holds just a written value is read as that value. -/
theorem IsReadAs.readWhole_eq (h : IsReadAs read text a) :
    readWhole read (String.ofList text) = .ok a := by
  have heq := h.eq [] isEnded_nil
  rw [List.append_nil] at heq
  simp only [readWhole, String.toList_ofList, heq, bind, Except.bind]
  rfl

theorem scalar_eq {accept : Front → Except Fault α} {cs : List Char} {f : Front}
    (hfront : readFront cs = .ok (f, rest)) (haccept : accept f = .ok a) :
    scalar accept cs = .ok (a, rest) := by
  simp only [scalar, hfront, bind, Except.bind, haccept]
  rfl

/-! ## Texts and flags -/

theorem readFront_quote (s : String) (rest : List Char) :
    readFront (printString s ++ rest) = .ok (.text s, rest) := by
  have hread := readString_escaped s rest
  rw [printString, List.cons_append, List.append_assoc, readFront, skipSpace_cons (by decide)]
  simp only [List.singleton_append, hread, bind, Except.bind]
  rfl

theorem opens_printString (s : String) :
    ∃ c cs, printString s = c :: cs ∧ isSpace c = false ∧ c ≠ ']' :=
  ⟨_, _, rfl, by decide, by decide⟩

theorem isReadAs_printString (expected s : String) :
    IsReadAs (readTextAs expected) (printString s) s :=
  ⟨opens_printString s, fun rest _ => scalar_eq (readFront_quote s rest) rfl⟩

theorem isReadAs_printFlag (b : Bool) : IsReadAs readFlag (printFlag b) b := by
  cases b with
  | false => exact ⟨⟨'f', _, rfl, by decide, by decide⟩, fun rest _ => scalar_eq rfl rfl⟩
  | true => exact ⟨⟨'t', _, rfl, by decide, by decide⟩, fun rest _ => scalar_eq rfl rfl⟩

/-! ## Counts -/

/-- The digits of a number other than zero do not begin with a zero. -/
theorem head?_toDigits_ne {n : Nat} (h : 0 < n) : (Nat.toDigits 10 n).head? ≠ some '0' := by
  induction n using Nat.strongRecOn with
  | ind n ih =>
    rcases Nat.lt_or_ge n 10 with hlt | hge
    · have hdigit : ∀ d < 10, 0 < d → [d.digitChar].head? ≠ some '0' := by decide
      rw [Nat.toDigits_of_lt_base hlt]
      exact hdigit n hlt h
    · rw [Nat.toDigits_of_base_le (by decide) hge, List.head?_append]
      have hrest := ih (n / 10) (by omega) (by omega)
      cases hhead : (Nat.toDigits 10 (n / 10)).head? with
      | none => exact absurd (List.head?_eq_none_iff.1 hhead) Nat.toDigits_ne_nil
      | some d => rwa [hhead] at hrest

theorem ofDigits_toDigits (n : Nat) : Text.ofDigits (Nat.toDigits 10 n) = n := by
  have hvalue := Nat.ofDigitChars_toDigits (b := 10) (n := n) (by decide) (by decide)
  rw [Nat.ofDigitChars_eq_foldl] at hvalue
  rw [Text.ofDigits]
  simpa only [Text.digitValue, Nat.mul_comm] using hvalue

/-- A written count stops where the digits stop. -/
theorem digits_printCount (n : Nat) (hrest : IsEnded rest) :
    Numeral.digits (printCount n ++ rest) = (printCount n, rest) := by
  have hdigit : ∀ c ∈ printCount n, c.isDigit = true := fun c hc =>
    Nat.isDigit_of_mem_toDigits (by decide) (by decide) hc
  have hstop : rest.takeWhile Char.isDigit = [] ∧ rest.dropWhile Char.isDigit = rest := by
    cases rest with
    | nil => exact ⟨rfl, rfl⟩
    | cons c cs => rcases hrest c rfl with rfl | rfl | rfl <;> exact ⟨rfl, rfl⟩
  rw [Numeral.digits, List.takeWhile_append_of_pos hdigit, List.dropWhile_append_of_pos hdigit,
    hstop.1, hstop.2, List.append_nil]

/-- A written count begins with a digit, and with a zero only if that is all of it. -/
theorem printCount_eq_cons (n : Nat) :
    ∃ c cs, printCount n = c :: cs ∧ c.isDigit = true ∧ (c = '0' → cs = []) := by
  cases hcount : printCount n with
  | nil => exact absurd hcount Nat.toDigits_ne_nil
  | cons c cs =>
    have hdigit : c.isDigit = true :=
      Nat.isDigit_of_mem_toDigits (by decide) (by decide) (hcount ▸ List.mem_cons_self)
    refine ⟨c, cs, rfl, hdigit, fun hzero => ?_⟩
    rcases Nat.eq_zero_or_pos n with rfl | hpos
    · exact (List.cons.inj hcount).2.symm
    · have hhead := head?_toDigits_ne hpos
      rw [← printCount, hcount, hzero] at hhead
      exact absurd rfl hhead

theorem someDigits_printCount (n : Nat) (hrest : IsEnded rest) :
    Numeral.someDigits (printCount n ++ rest) = .ok (printCount n, rest) := by
  obtain ⟨c, cs, hcount, -, -⟩ := printCount_eq_cons n
  rw [Numeral.someDigits, digits_printCount n hrest, hcount]

theorem scanWhole_printCount (n : Nat) (hrest : IsEnded rest) :
    Numeral.scanWhole (printCount n ++ rest) = .ok (printCount n, rest) := by
  obtain ⟨c, cs, hcount, -, hzero⟩ := printCount_eq_cons n
  rw [Numeral.scanWhole, someDigits_printCount n hrest, hcount]
  split
  · next heq =>
    -- an idle zero in front
    cases heq
    exact absurd (hzero rfl) nofun
  · rfl

/-- Where a value ends there is neither a point nor an exponent. -/
theorem scanFraction_of_isEnded (hrest : IsEnded rest) :
    Numeral.scanFraction rest = .ok ([], rest) := by
  cases rest with
  | nil => rfl
  | cons c cs => rcases hrest c rfl with rfl | rfl | rfl <;> rfl

theorem scanExponent_of_isEnded (hrest : IsEnded rest) :
    Numeral.scanExponent rest = .ok (none, rest) := by
  cases rest with
  | nil => rfl
  | cons c cs => rcases hrest c rfl with rfl | rfl | rfl <;> rfl

theorem scan_printCount (n : Nat) (hrest : IsEnded rest) :
    Numeral.scan (printCount n ++ rest) = .ok (⟨false, printCount n, [], none⟩, rest) := by
  have hunsigned : Numeral.scanUnsigned false (printCount n ++ rest) =
      .ok (⟨false, printCount n, [], none⟩, rest) := by
    simp only [Numeral.scanUnsigned, scanWhole_printCount n hrest, bind, Except.bind,
      scanFraction_of_isEnded hrest, scanExponent_of_isEnded hrest]
    rfl
  obtain ⟨c, cs, hcount, hdigit, -⟩ := printCount_eq_cons n
  rw [hcount, List.cons_append] at hunsigned ⊢
  rw [Numeral.scan, hunsigned]
  intro ds heq
  cases heq
  exact absurd hdigit (by decide)

theorem readNumber_printCount {n : Nat} (hn : n ≤ maxWord) (hrest : IsEnded rest) :
    readNumber (printCount n ++ rest) = .ok (.natural n, rest) := by
  have hvalue : Numeral.value ⟨false, printCount n, [], none⟩ = .ok (.natural n) := by
    simp [Numeral.value, Numeral.isWhole, printCount, ofDigits_toDigits, hn]
  simp only [readNumber, scan_printCount n hrest, bind, Except.bind, hvalue]
  rfl

theorem isSpace_of_isDigit {c : Char} (h : c.isDigit = true) : isSpace c = false := by
  simp only [isSpace, Bool.or_eq_false_iff, beq_eq_false_iff_ne]
  refine ⟨⟨⟨?_, ?_⟩, ?_⟩, ?_⟩ <;> rintro rfl <;> exact absurd h (by decide)

/-- A text that begins with a digit is read as a number. -/
theorem readFront_of_isDigit {c : Char} (h : c.isDigit = true) {cs : List Char} {n : Number}
    (hread : readNumber (c :: cs) = .ok (n, rest)) :
    readFront (c :: cs) = .ok (.number n, rest) := by
  rw [readFront, skipSpace_cons (isSpace_of_isDigit h)]
  split
  case h_1 heq => cases heq
  case h_8 heq =>
    cases heq
    simp only [if_pos (Or.inr h), hread, bind, Except.bind]
    rfl
  -- none of the other letters that a value may begin with is a digit
  all_goals
    next heq =>
      cases heq
      exact absurd h (by decide)

theorem isReadAs_printCount {n : Nat} (hn : n ≤ maxWord) :
    IsReadAs readCount (printCount n) n := by
  obtain ⟨c, cs, hcount, hdigit, -⟩ := printCount_eq_cons n
  refine ⟨⟨c, cs, hcount, isSpace_of_isDigit hdigit, ?_⟩, fun rest hrest => ?_⟩
  · rintro rfl
    exact absurd hdigit (by decide)
  · have hread := readNumber_printCount hn hrest
    rw [hcount, List.cons_append] at hread ⊢
    rw [readCount, readCountAs]
    exact scalar_eq (readFront_of_isDigit hdigit hread) rfl

/-! ## Arrays -/

/-- What follows the first of some values with commas between them. -/
def commaed (texts : List (List Char)) : List Char := texts.flatMap fun t => ',' :: t

theorem joined_cons (t : List Char) (ts : List (List Char)) :
    joined (t :: ts) = t ++ commaed ts := by
  induction ts generalizing t with
  | nil => simp [joined, commaed]
  | cons u us ih => simp [joined, ih, commaed]

/-- There are no more values than letters. -/
theorem length_le_length_commaed (ts : List (List Char)) : ts.length ≤ (commaed ts).length := by
  induction ts with
  | nil => exact Nat.le_refl _
  | cons t ts ih =>
    simp only [commaed, List.flatMap_cons, List.cons_append, List.length_cons,
      List.length_append] at ih ⊢
    omega

theorem length_lt_length_joined (ts : List (List Char)) (closing : Char) (rest : List Char) :
    ts.length < (joined ts ++ closing :: rest).length + 1 := by
  cases ts with
  | nil => exact Nat.zero_lt_succ _
  | cons t ts =>
    have hle := length_le_length_commaed ts
    simp only [joined_cons, List.length_append, List.length_cons]
    omega

theorem IsReadAs.nextElement_first (h : IsReadAs read text a) (rest : List Char) :
    nextElement true (text ++ rest) = .ok (some (text ++ rest)) := by
  obtain ⟨c, cs, rfl, hspace, hbracket⟩ := h.opens
  rw [List.cons_append, nextElement, skipSpace_cons hspace]
  simp [hbracket]

theorem IsReadAs.nextElement_comma (h : IsReadAs read text a) (rest : List Char) :
    nextElement false (',' :: (text ++ rest)) = .ok (some (text ++ rest)) := by
  obtain ⟨c, cs, rfl, hspace, hbracket⟩ := h.opens
  have hcomma : isSpace ',' = false := rfl
  simp [nextElement, skipSpace_cons hcomma, skipSpace_cons hspace, hbracket]

theorem isEnded_commaed (ts : List (List Char)) (rest : List Char) (hrest : IsEnded rest) :
    IsEnded (commaed ts ++ rest) := by
  cases ts with
  | nil => exact hrest
  | cons t ts => exact isEnded_comma _

variable {print : α → List Char} {as : List α}

/-- The elements after the first one are read back, each behind its comma. -/
theorem elementsFor_commaed (h : ∀ a ∈ as, IsReadAs read (print a) a) (rest : List Char) {n : Nat}
    (hn : as.length < n) :
    elementsFor read false (commaed (as.map print) ++ ']' :: rest) n = .ok (as, rest) := by
  obtain ⟨m, rfl⟩ := Nat.exists_eq_add_of_lt hn
  induction as generalizing m with
  | nil => rfl
  | cons a as ih =>
    have ha := h a List.mem_cons_self
    have hread := ha.eq _ (isEnded_commaed (as.map print) _ (isEnded_bracket rest))
    have hrest := ih (fun b hb => h b (List.mem_cons_of_mem _ hb)) m (by omega)
    have htext : commaed ((a :: as).map print) ++ ']' :: rest =
        ',' :: (print a ++ (commaed (as.map print) ++ ']' :: rest)) := by
      simp [commaed]
    rw [List.length_cons, Nat.add_right_comm as.length 1 m, elementsFor]
    simp only [htext, ha.nextElement_comma, hread, hrest, bind, Except.bind]
    rfl

theorem elementsFor_joined (h : ∀ a ∈ as, IsReadAs read (print a) a) (rest : List Char) {n : Nat}
    (hn : as.length < n) :
    elementsFor read true (joined (as.map print) ++ ']' :: rest) n = .ok (as, rest) := by
  obtain ⟨m, rfl⟩ := Nat.exists_eq_add_of_lt hn
  cases as with
  | nil => rfl
  | cons a as =>
    have ha := h a List.mem_cons_self
    have hread := ha.eq _ (isEnded_commaed (as.map print) _ (isEnded_bracket rest))
    have hrest := elementsFor_commaed (fun b hb => h b (List.mem_cons_of_mem _ hb)) rest
      (n := as.length + 1 + m) (by omega)
    rw [List.length_cons, elementsFor]
    simp only [List.map_cons, joined_cons, List.append_assoc, ha.nextElement_first, hread, hrest,
      bind, Except.bind]
    rfl

/-- A written array is read back if its elements are. -/
theorem isReadAs_printArray (h : ∀ a ∈ as, IsReadAs read (print a) a) :
    IsReadAs (readArray read) (printArray (as.map print)) as := by
  refine ⟨⟨'[', _, rfl, by decide, by decide⟩, fun rest _ => ?_⟩
  have hlen := length_lt_length_joined (as.map print) ']' rest
  rw [List.length_map] at hlen
  have hread := elementsFor_joined h rest hlen
  have hfront : readFront ('[' :: (joined (as.map print) ++ ']' :: rest)) =
      .ok (.array, joined (as.map print) ++ ']' :: rest) := rfl
  simp only [readArray, printArray, List.cons_append, List.append_assoc, List.nil_append, hfront,
    bind, Except.bind, hread]

end Turnstile.Json
