/-
# The shortest decimal that reads back

Every real number strictly between the midpoints to the two neighbours of a floating-point
number is read as that number, and the midpoints themselves are if its significand is even.
Of the decimals in this interval `shortest` picks one with the fewest digits, and of these
the one nearest to the number.

The search goes from coarse to fine grids of multiples of a power of ten.  On each grid only
the two multiples around the number can be in the interval without a coarser grid having
one.
-/
import Turnstile.Decimal.Binary

namespace Turnstile.Decimal

/-- A whole number times a power of ten. -/
structure Digits where
  significand : Nat
  exponent : Int
deriving DecidableEq, Repr

/-- A power of ten as a whole number. -/
def powerOfTen (n : Nat) : Nat := Nat.pow 10 n

/-- The numbers that are read as one floating-point number, all times one common power of
two, which is `4 * 2 ^ e` for the exponent `e` of the number. -/
structure ReadingInterval where
  /-- The number itself. -/
  centre : Nat
  lower : Nat
  upper : Nat
  /-- Whether the ends belong to the interval. -/
  closed : Bool
  exponent : Int
deriving DecidableEq, Repr

/-- The interval of a magnitude.  The gap below a power of two is half the gap above it. -/
def ReadingInterval.of (b : Binary) : ReadingInterval where
  centre := 4 * b.significand
  lower := 4 * b.significand - (if b.significand = hiddenBit ∧ -1074 < b.exponent then 1 else 2)
  upper := 4 * b.significand + 2
  closed := b.significand % 2 == 0
  exponent := b.exponent - 2

namespace ReadingInterval

/-- Whether a fraction, given in the interval's unit, lies in the interval. -/
def contains (i : ReadingInterval) (num den : Nat) : Bool :=
  if i.closed then decide (i.lower * den ≤ num) && decide (num ≤ i.upper * den)
  else decide (i.lower * den < num) && decide (num < i.upper * den)

/-- The multiple of a power of ten that lies in the interval nearest to its centre; the
even one of two that are equally near. -/
def nearest? (i : ReadingInterval) (power : Int) : Option Nat :=
  let num := powerOfTen power.toNat <<< (-i.exponent).toNat
  let den := powerOfTen (-power).toNat <<< i.exponent.toNat
  let below := i.centre * den / num
  let isIn := fun n => i.contains (n * num) den
  let rest := 2 * (i.centre * den - below * num)
  if isIn below && isIn (below + 1) then
    some (if rest < num ∨ (rest = num ∧ below % 2 = 0) then below else below + 1)
  else if isIn below then some below
  else if isIn (below + 1) then some (below + 1)
  else none

/-- Searches grids from a power of ten downwards, so many of them. -/
def search (i : ReadingInterval) (power : Int) : Nat → Digits
  | 0 => ⟨0, 0⟩
  | n + 1 =>
    match i.nearest? power with
    | some s => ⟨s, power⟩
    | none => search i (power - 1) n

end ReadingInterval

/-- Takes zeros off the end of a significand, at most so many. -/
def Digits.reduce (d : Digits) : Nat → Digits
  | 0 => d
  | n + 1 =>
    if d.significand ≠ 0 ∧ d.significand % 10 = 0 then
      Digits.reduce ⟨d.significand / 10, d.exponent + 1⟩ n
    else d

/-- A power of ten above a magnitude, by less than a factor of a thousand. -/
def powerAbove (b : Binary) : Int :=
  (b.exponent + Int.ofNat b.significand.log2 + 1) * 30103 / 100000 + 1

/-- The shortest decimal that reads back as a magnitude; zero for zero.  Seventeen digits
always suffice, and the search begins at most three places above the first digit. -/
def shortest (b : Binary) : Digits :=
  if b.significand = 0 then ⟨0, 0⟩
  else ((ReadingInterval.of b).search (powerAbove b) 20).reduce 20

end Turnstile.Decimal
