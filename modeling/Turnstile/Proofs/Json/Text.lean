/-
# Written strings read back

A written string reads back as the text that was written, whatever letters it has and
whatever stands behind it.  The reader takes one letter at a time, be it escaped or not, so
one lemma on a written letter (`readRest_escaped`) carries over to the whole string.
-/
import Mathlib
import Turnstile.Json.Printer

namespace Turnstile

namespace Text

/-! ## Hexadecimal digits -/

theorem hexDigit?_digitChar {d : Nat} (h : d < 16) : hexDigit? d.digitChar = some d := by
  revert d
  decide

theorem hexValue?_append_digitChar (cs : List Char) {d : Nat} (h : d < 16) :
    hexValue? (cs ++ [d.digitChar]) = (hexValue? cs).map (· * 16 + d) := by
  rw [hexValue?, List.foldl_append, List.foldl_cons, List.foldl_nil, hexDigit?_digitChar h]
  cases h : hexValue? cs <;> rw [hexValue?] at h <;> rw [h] <;> rfl

/-- The last digits of a number spell it up to a power of sixteen. -/
theorem hexValue?_lastHexDigits (n v : Nat) :
    hexValue? (lastHexDigits n v) = some (v % 16 ^ n) := by
  induction n generalizing v with
  | zero => simp [lastHexDigits, hexValue?, Nat.mod_one]
  | succ n ih =>
    rw [lastHexDigits, hexValue?_append_digitChar _ (Nat.mod_lt v (by decide)), ih,
      Option.map_some, Option.some.injEq, Nat.pow_succ', Nat.mod_mul, Nat.mul_comm, Nat.add_comm]

end Text

namespace Json

/-! ## One letter -/

theorem readHex_eq {a b c d : Char} {n : Nat} (h : Text.hexValue? [a, b, c, d] = some n)
    (cs : List Char) :
    readHex (a :: b :: c :: d :: cs) = .ok (n, ⟨cs, by simp only [List.length_cons]; omega⟩) := by
  simp only [readHex, h]

/-- An escape by digits reads back as its letter, unless it is half of a surrogate pair. -/
theorem readUnicode_lastHexDigits {v : Nat} (h : v < 0xD800) (cs : List Char) :
    ∃ hlt, readUnicode (Text.lastHexDigits 4 v ++ cs) = .ok (Char.ofNat v, ⟨cs, hlt⟩) := by
  have hvalue := Text.hexValue?_lastHexDigits 4 v
  rw [Nat.mod_eq_of_lt (by omega)] at hvalue
  have hleading : isLeading v = false := by
    simp only [isLeading, Bool.and_eq_false_iff, decide_eq_false_iff_not]
    omega
  have htrailing : isTrailing v = false := by
    simp only [isTrailing, Bool.and_eq_false_iff, decide_eq_false_iff_not]
    omega
  have hread := readHex_eq hvalue cs
  refine ⟨by simp, ?_⟩
  change readUnicode (_ :: _ :: _ :: _ :: cs) = _
  rw [readUnicode, hread]
  simp only [bind, Except.bind, htrailing, hleading]
  rfl

theorem readRest_of_readEscape {c : Char} {cs rest : List Char} {hlt : rest.length < cs.length}
    (h : readEscape cs = .ok (c, ⟨rest, hlt⟩)) (before : List Char) :
    readRest before ('\\' :: cs) = readRest (c :: before) rest := by
  rw [readRest, h]
  rfl

/-- An escape by one letter reads back as what the letter stands for. -/
theorem readRest_letter {c e : Char} (hc : c ≠ 'u') (h : letterEscape? c = some e)
    (before cs : List Char) :
    readRest before ('\\' :: c :: cs) = readRest (e :: before) cs := by
  have hread : readEscape (c :: cs) = .ok (e, ⟨cs, Nat.lt_succ_self _⟩) := by
    simp only [readEscape, h]
  exact readRest_of_readEscape hread before

/-- An escape by digits reads back as the character with this code point. -/
theorem readRest_digits {v : Nat} (h : v < 0xD800) (before cs : List Char) :
    readRest before ('\\' :: 'u' :: (Text.lastHexDigits 4 v ++ cs)) =
      readRest (Char.ofNat v :: before) cs := by
  obtain ⟨hlt, hread⟩ := readUnicode_lastHexDigits h cs
  have hescape : readEscape ('u' :: (Text.lastHexDigits 4 v ++ cs)) =
      .ok (Char.ofNat v, ⟨cs, Nat.lt_succ_of_lt hlt⟩) := by
    simp only [readEscape, hread]
    rfl
  exact readRest_of_readEscape hescape before

/-- A letter that stands for itself reads back as itself. -/
theorem readRest_plain {c : Char} (hquote : c ≠ '"') (hbackslash : c ≠ '\\')
    (hcontrol : isControl c = false) (before cs : List Char) :
    readRest before (c :: cs) = readRest (c :: before) cs := by
  rw [readRest, hcontrol]
  · rfl
  · exact hquote
  · exact hbackslash

/-- A written letter reads back as the letter. -/
theorem readRest_escaped (before : List Char) (c : Char) (cs : List Char) :
    readRest before (escaped c ++ cs) = readRest (c :: before) cs := by
  rw [escaped]
  -- seven letters have an escape of their own
  iterate 7
    split
    · next h =>
      subst h
      exact readRest_letter (by decide) rfl before cs
  split
  · next h =>
    have hlt : c.toNat < 0xD800 := by
      rw [isControl, decide_eq_true_iff] at h
      omega
    have hread := readRest_digits hlt before cs
    rw [Char.ofNat_toNat] at hread
    exact hread
  · next hquote hbackslash _ _ _ _ _ hcontrol =>
    exact readRest_plain hquote hbackslash (Bool.eq_false_iff.2 hcontrol) before cs

/-! ## Whole strings -/

theorem readRest_flatMap_escaped (before cs rest : List Char) :
    readRest before (cs.flatMap escaped ++ '"' :: rest) = .ok (before.reverse ++ cs, rest) := by
  induction cs generalizing before with
  | nil => rw [List.flatMap_nil, List.nil_append, readRest, List.append_nil]
  | cons c cs ih =>
    rw [List.flatMap_cons, List.append_assoc, readRest_escaped, ih, List.reverse_cons,
      List.append_assoc]
    rfl

/-- A written text reads back after its opening quote. -/
theorem readString_escaped (s : String) (rest : List Char) :
    readString (s.toList.flatMap escaped ++ '"' :: rest) = .ok (s, rest) := by
  rw [readString, readRest_flatMap_escaped, List.reverse_nil, List.nil_append]
  simp only [bind, Except.bind, String.ofList_toList]
  rfl

end Json
end Turnstile
