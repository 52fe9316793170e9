/-
# Ranges of code points

A class of characters beyond ASCII is held as a list of ranges of code points, first and last
of each, in rising order.
-/

namespace Turnstile.Text

/-- Whether the code point of a character lies in one of the ranges. -/
def liesIn (ranges : List (Nat × Nat)) (c : Char) : Bool :=
  ranges.any fun r => r.1 ≤ c.toNat && c.toNat ≤ r.2

end Turnstile.Text
