/-
# Written decimals

How decimal digits are laid out as text: in full around a decimal point, or with an
exponent.  A `Layout` says where the one form ends and the other begins.
-/
import Turnstile.Decimal.Shortest

namespace Turnstile.Decimal

/-- The digits of a whole number. -/
def digitsOf (n : Nat) : List Char := Nat.toDigits 10 n

/-- The decimal format of a kind of numbers. -/
structure Layout where
  /-- The least power of ten of a first digit that is written in full. -/
  leastFull : Int
  /-- The greatest power of ten of a first digit that is written in full. -/
  greatestFull : Int
  /-- How many digits an exponent has at least. -/
  exponentWidth : Nat

/-- Numbers in a fault report: in full from 0.00001 up to sixteen digits before the point,
otherwise with a signed exponent. -/
def Layout.report : Layout := ⟨-5, 15, 1⟩

/-- A list of digits with zeros before it, up to a width. -/
def padded (width : Nat) (ds : List Char) : List Char :=
  List.replicate (width - ds.length) '0' ++ ds

/-- Digits in full, with at least one digit on either side of the point. -/
def inFull (ds : List Char) (exponent : Int) : List Char :=
  if 0 ≤ exponent then ds ++ List.replicate exponent.toNat '0' ++ ['.', '0']
  else
    let places := (-exponent).toNat
    let all := padded (places + 1) ds
    all.take (all.length - places) ++ '.' :: all.drop (all.length - places)

/-- Digits with an exponent: a point after the first digit if others follow. -/
def withExponent (width : Nat) (ds : List Char) (power : Int) : List Char :=
  let tail := ds.drop 1
  let mantissa := ds.take 1 ++ (if tail.isEmpty then [] else '.' :: tail)
  mantissa ++ 'e' :: (if power < 0 then '-' else '+') :: padded width (digitsOf power.natAbs)

/-- The text of decimal digits in a layout. -/
def Layout.text (l : Layout) (d : Digits) : List Char :=
  let ds := digitsOf d.significand
  let power := d.exponent + (ds.length : Int) - 1
  if l.leastFull ≤ power ∧ power ≤ l.greatestFull then inFull ds d.exponent
  else withExponent l.exponentWidth ds power

/-- The text of a floating-point number: the shortest decimal that reads back, after a
minus sign if the sign bit is set. -/
def textOf (x : Float) : String :=
  let magnitude := Layout.report.text (shortest (Binary.ofFloat x))
  String.ofList (if isNegative x then '-' :: magnitude else magnitude)

/-- The text of a number of hundredths or the like: a whole number with its last `places`
digits behind the point, and the zeros at the end of those left out. -/
def trimmedFraction (places n : Nat) : List Char :=
  let fraction := (padded places (digitsOf (n % powerOfTen places))).reverse.dropWhile (· == '0')
  digitsOf (n / powerOfTen places) ++ (if fraction.isEmpty then [] else '.' :: fraction.reverse)

/-- The text of a floating-point number that is not negative, with so many decimal places. -/
def fixed (places : Nat) (x : Float) : String :=
  if x.isNaN then "NaN"
  else if x.isInf then "inf"
  else
    let n := (Binary.ofFloat x).times (powerOfTen places)
    let fraction := padded places (digitsOf (n % powerOfTen places))
    String.ofList (digitsOf (n / powerOfTen places) ++ '.' :: fraction)

end Turnstile.Decimal
