/-
# Floating-point numbers as exact fractions

A finite floating-point number is a whole number of up to 53 bits times a power of two.
This file reads these two parts off its 64 bits and rounds multiples of the number to
whole numbers, a half going to the even neighbour.
-/

namespace Turnstile.Decimal

/-- The magnitude of a finite floating-point number. -/
structure Binary where
  significand : Nat
  /-- The power of two that the significand is multiplied by. -/
  exponent : Int
deriving DecidableEq, Repr

/-- Whether the sign bit of a floating-point number is set. -/
def isNegative (x : Float) : Bool := x.toBits.toNat >>> 63 == 1

/-- The leading bit of a significand, which is not written in the normal range. -/
def hiddenBit : Nat := 1 <<< 52

/-- The magnitude of a floating-point number; numbers below the normal range share the
least exponent, the others have a leading bit that is not written. -/
def Binary.ofFloat (x : Float) : Binary :=
  let fraction := x.toBits.toNat % hiddenBit
  let biased := x.toBits.toNat >>> 52 % 2048
  if biased = 0 then ⟨fraction, -1074⟩ else ⟨fraction + hiddenBit, Int.ofNat biased - 1075⟩

/-- The quotient of two whole numbers rounded to the nearest one, a half to the even one. -/
def roundDiv (num den : Nat) : Nat :=
  let q := num / den
  let twice := 2 * (num % den)
  if twice > den ∨ (twice = den ∧ q % 2 = 1) then q + 1 else q

/-- The product of a magnitude and a whole number, rounded to a whole number. -/
def Binary.times (b : Binary) (k : Nat) : Nat :=
  roundDiv ((b.significand * k) <<< b.exponent.toNat) (1 <<< (-b.exponent).toNat)

end Turnstile.Decimal
