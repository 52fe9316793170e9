/-
# Hexadecimal digits

Numbers as hexadecimal digits: written in lower case, read in either case.
-/

namespace Turnstile.Text

/-- The value of a hexadecimal digit. -/
def hexDigit? (c : Char) : Option Nat :=
  if '0' ≤ c ∧ c ≤ '9' then some (c.toNat - '0'.toNat)
  else if 'a' ≤ c ∧ c ≤ 'f' then some (c.toNat - 'a'.toNat + 10)
  else if 'A' ≤ c ∧ c ≤ 'F' then some (c.toNat - 'A'.toNat + 10)
  else none

/-- The number that hexadecimal digits spell. -/
def hexValue? (cs : List Char) : Option Nat :=
  cs.foldl (fun acc c => do return (← acc) * 16 + (← hexDigit? c)) (some 0)

/-- The digits of a number, without idle zeros. -/
def hexDigits (n : Nat) : List Char := Nat.toDigits 16 n

/-- The last `n` digits of a number. -/
def lastHexDigits : Nat → Nat → List Char
  | 0, _ => []
  | n + 1, v => lastHexDigits n (v / 16) ++ [Nat.digitChar (v % 16)]

@[simp] theorem length_lastHexDigits (n v : Nat) : (lastHexDigits n v).length = n := by
  induction n generalizing v with
  | zero => rfl
  | succ n ih => simp [lastHexDigits, ih]

end Turnstile.Text
