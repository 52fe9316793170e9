/-
# Counts that stop at the greatest word

Times in milliseconds, quotas and window lengths are 64-bit counts.  They are kept as
natural numbers; where a product or a sum could leave the range, it stops at the greatest
word instead of wrapping.  This file holds that ceiling and the two capped operations.
-/

namespace Turnstile

/-- The greatest 64-bit count. -/
def maxWord : Nat := UInt64.size - 1

/-- The bound of the signed 64-bit numbers: they are below it, or not below its negation. -/
def signedBound : Nat := UInt64.size / 2

/-- The product of two counts, stopped at the greatest word. -/
def cappedMul (a b : Nat) : Nat := min (a * b) maxWord

/-- The sum of two counts, stopped at the greatest word. -/
def cappedAdd (a b : Nat) : Nat := min (a + b) maxWord

/-- A time within range does not see the cap on a length that is subtracted from it. -/
theorem sub_cappedMul {now : Nat} (h : now ≤ maxWord) (a b : Nat) :
    now - cappedMul a b = now - a * b := by
  unfold cappedMul
  omega

end Turnstile
