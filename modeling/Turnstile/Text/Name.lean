/-
# Names that ignore the case of ASCII letters

Header names, switches and log levels are compared with the ASCII letters brought to
lower case; every other character counts as it is.
-/

namespace Turnstile.Text

/-- The letters of a name, ASCII letters in lower case. -/
def folded (cs : List Char) : List Char := cs.map Char.toLower

/-- Whether two names agree up to the case of ASCII letters. -/
def sameName (a b : String) : Bool := folded a.toList == folded b.toList

theorem sameName_iff (a b : String) :
    sameName a b = true ↔ folded a.toList = folded b.toList := by
  simp [sameName]

@[simp] theorem sameName_refl (a : String) : sameName a a = true := by
  simp [sameName]

theorem sameName_comm (a b : String) : sameName a b = sameName b a := by
  simp only [sameName]
  exact Bool.beq_comm

end Turnstile.Text
