/-
# The order of texts is that of their bytes

Texts are compared letter by letter, and letters by their code points.  UTF-8 is made so that
the bytes of two texts compare in the same way: letters of more bytes begin with greater
bytes, and of letters with the same number of bytes the first byte that differs decides, as
the bytes hold the bits of the letter from the highest ones down.
-/
import Mathlib

namespace Turnstile.Text

/-- The bytes of a text in UTF-8. -/
def utf8 (s : String) : List UInt8 := s.toUTF8.data.toList

theorem utf8_eq_flatMap (s : String) : utf8 s = s.toList.flatMap String.utf8EncodeChar := by
  rw [utf8, String.toUTF8_eq_toByteArray, ← String.ofList_toList (s := s),
    String.toByteArray_ofList, String.toList_ofList, List.utf8Encode]
  simp

/-! ## One letter -/

section Letters

variable {v w : Nat} {as bs : List UInt8}

/-- Bytes compare by the first of them that differs. -/
theorem ofNat_cons_lt {a b : Nat} (hb : b < 256) (h : a < b ∨ a = b ∧ as < bs) :
    UInt8.ofNat a :: as < UInt8.ofNat b :: bs := by
  rcases h with hab | ⟨rfl, hrest⟩
  · refine List.Lex.rel ?_
    rw [UInt8.lt_iff_toNat_lt, UInt8.toNat_ofNat', UInt8.toNat_ofNat']
    omega
  · exact List.Lex.cons hrest

/-- The last byte decides between code points that agree above its six bits. -/
theorem oneMore_lt (hvw : v < w) (hsame : v / 64 = w / 64) :
    UInt8.ofNat (v % 64 + 0x80) :: as < UInt8.ofNat (w % 64 + 0x80) :: bs :=
  ofNat_cons_lt (by omega) (.inl (by omega))

theorem twoMore_lt (hvw : v < w) (hsame : v / 4096 = w / 4096) :
    UInt8.ofNat (v / 64 % 64 + 0x80) :: UInt8.ofNat (v % 64 + 0x80) :: as <
      UInt8.ofNat (w / 64 % 64 + 0x80) :: UInt8.ofNat (w % 64 + 0x80) :: bs := by
  refine ofNat_cons_lt (by omega) ?_
  rcases Nat.lt_or_ge (v / 64) (w / 64) with hlt | hge
  · exact .inl (by omega)
  · exact .inr ⟨by omega, oneMore_lt hvw (by omega)⟩

theorem threeMore_lt (hvw : v < w) (hsame : v / 262144 = w / 262144) :
    UInt8.ofNat (v / 4096 % 64 + 0x80) :: UInt8.ofNat (v / 64 % 64 + 0x80) ::
        UInt8.ofNat (v % 64 + 0x80) :: as <
      UInt8.ofNat (w / 4096 % 64 + 0x80) :: UInt8.ofNat (w / 64 % 64 + 0x80) ::
        UInt8.ofNat (w % 64 + 0x80) :: bs := by
  refine ofNat_cons_lt (by omega) ?_
  rcases Nat.lt_or_ge (v / 4096) (w / 4096) with hlt | hge
  · exact .inl (by omega)
  · exact .inr ⟨by omega, twoMore_lt hvw (by omega)⟩

/-- The bytes of a letter come before those of a greater one, whatever follows. -/
theorem utf8EncodeChar_append_lt {c d : Char} (h : c < d) (bs bs' : List UInt8) :
    String.utf8EncodeChar c ++ bs < String.utf8EncodeChar d ++ bs' := by
  have hvw : c.val.toNat < d.val.toNat := h
  have hmax : d.val.toNat < 0x110000 := by
    rcases d.valid with hv | hv <;> omega
  simp only [String.utf8EncodeChar]
  generalize c.val.toNat = v at hvw ⊢
  generalize d.val.toNat = w at hvw hmax ⊢
  split_ifs
  -- a smaller letter has no more bytes than a greater one
  all_goals try omega
  -- with different numbers of bytes the first one decides
  · exact ofNat_cons_lt (by omega) (.inl hvw)
  · exact ofNat_cons_lt (by omega) (.inl (by omega))
  · exact ofNat_cons_lt (by omega) (.inl (by omega))
  · exact ofNat_cons_lt (by omega) (.inl (by omega))
  · rcases Nat.lt_or_ge (v / 64) (w / 64) with hlt | hge
    · exact ofNat_cons_lt (by omega) (.inl (by omega))
    · exact ofNat_cons_lt (by omega) (.inr ⟨by omega, oneMore_lt hvw (by omega)⟩)
  · exact ofNat_cons_lt (by omega) (.inl (by omega))
  · exact ofNat_cons_lt (by omega) (.inl (by omega))
  · rcases Nat.lt_or_ge (v / 4096) (w / 4096) with hlt | hge
    · exact ofNat_cons_lt (by omega) (.inl (by omega))
    · exact ofNat_cons_lt (by omega) (.inr ⟨by omega, twoMore_lt hvw (by omega)⟩)
  · exact ofNat_cons_lt (by omega) (.inl (by omega))
  · rcases Nat.lt_or_ge (v / 262144) (w / 262144) with hlt | hge
    · exact ofNat_cons_lt (by omega) (.inl (by omega))
    · exact ofNat_cons_lt (by omega) (.inr ⟨by omega, threeMore_lt hvw (by omega)⟩)

end Letters

/-! ## Texts -/

theorem flatMap_utf8EncodeChar_lt {cs ds : List Char} (h : cs < ds) :
    cs.flatMap String.utf8EncodeChar < ds.flatMap String.utf8EncodeChar := by
  induction h with
  | @nil d ds =>
    rw [List.flatMap_nil, List.flatMap_cons]
    cases hd : String.utf8EncodeChar d with
    | nil => exact absurd hd String.utf8EncodeChar_ne_nil
    | cons b bs => exact List.Lex.nil
  | rel hcd => exact utf8EncodeChar_append_lt hcd _ _
  | cons _ ih => exact List.append_left_lt ih

/-- Texts compare as their bytes do. -/
theorem utf8_lt_utf8_iff {s t : String} : utf8 s < utf8 t ↔ s < t := by
  have hmono : ∀ {s t : String}, s < t → utf8 s < utf8 t := by
    intro s t h
    rw [utf8_eq_flatMap, utf8_eq_flatMap]
    exact flatMap_utf8EncodeChar_lt h
  refine ⟨fun h => ?_, hmono⟩
  rcases lt_trichotomy s t with hlt | rfl | hgt
  · exact hlt
  · exact absurd h (List.lt_irrefl _)
  · exact absurd h (List.lt_asymm (hmono hgt))

end Turnstile.Text
