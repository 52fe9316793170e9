/-
# JSON numbers

A numeral is a whole part without idle zeros, maybe a fraction, and maybe an exponent.
Reading it goes in two steps: `Numeral.scan` finds out where it ends, and `Numeral.value`
says what number it stands for.

A whole numeral within the 64-bit ranges is that number.  Every other one is rounded to a
floating-point number: its leading digits that fit 64 bits are converted and then scaled by
powers of ten, each step rounding on its own.
-/
import Turnstile.Json.Fault
import Turnstile.Text.Count

namespace Turnstile.Json

/-- The parts of a numeral. -/
structure Numeral where
  negative : Bool
  /-- The digits before the point. -/
  whole : List Char
  /-- The digits after the point; none if there is no point. -/
  fraction : List Char
  /-- Whether the exponent is negative, and its digits. -/
  exponent : Option (Bool × List Char)
deriving DecidableEq, Repr

namespace Numeral

/-- The digits at the front of a text, and the rest. -/
def digits (cs : List Char) : List Char × List Char :=
  (cs.takeWhile Char.isDigit, cs.dropWhile Char.isDigit)

/-- Digits of which there must be one. -/
def someDigits (cs : List Char) : Except Fault (List Char × List Char) :=
  match digits cs with
  | ([], []) => .error .endOfValue
  | ([], _ :: _) => .error .invalidNumber
  | (ds, rest) => .ok (ds, rest)

/-- Scans the digits before the point: a zero stands alone. -/
def scanWhole (cs : List Char) : Except Fault (List Char × List Char) :=
  match someDigits cs with
  | .ok ('0' :: _ :: _, _) => .error .invalidNumber
  | r => r

/-- Scans a point with digits, if there is one. -/
def scanFraction : List Char → Except Fault (List Char × List Char)
  | '.' :: cs => someDigits cs
  | cs => .ok ([], cs)

/-- Takes the sign off an exponent, and tells whether it is a minus. -/
def exponentSign : List Char → Bool × List Char
  | '-' :: cs => (true, cs)
  | '+' :: cs => (false, cs)
  | cs => (false, cs)

/-- Scans an exponent, if there is one. -/
def scanExponent : List Char → Except Fault (Option (Bool × List Char) × List Char)
  | c :: cs =>
    if c = 'e' ∨ c = 'E' then do
      let (negative, cs) := exponentSign cs
      let (ds, rest) ← someDigits cs
      return (some (negative, ds), rest)
    else .ok (none, c :: cs)
  | [] => .ok (none, [])

/-- Scans what follows the sign of a numeral. -/
def scanUnsigned (negative : Bool) (cs : List Char) : Except Fault (Numeral × List Char) := do
  let (whole, cs) ← scanWhole cs
  let (fraction, cs) ← scanFraction cs
  let (exponent, cs) ← scanExponent cs
  return (⟨negative, whole, fraction, exponent⟩, cs)

/-- Scans a numeral at the front of a text. -/
def scan : List Char → Except Fault (Numeral × List Char)
  | '-' :: cs => scanUnsigned true cs
  | cs => scanUnsigned false cs

/-- Appends digits to a number as long as it stays a 64-bit count, and tells how many digits
are left over. -/
def absorb (n : Nat) : List Char → Nat × Nat
  | [] => (n, 0)
  | d :: ds =>
    let n' := n * 10 + Text.digitValue d
    if n' ≤ maxWord then absorb n' ds else (n, ds.length + 1)

/-- The greatest power of ten that a number is scaled by in one step. -/
def maxPower : Nat := 308

/-- A power of ten as a floating-point number. -/
def powerOfTen (n : Nat) : Float := Float.ofScientific 1 false n

/-- Scales a number by a power of ten; large negative powers take several steps. -/
def scale (f : Float) (power : Int) : Except Fault Float :=
  if 0 ≤ power then
    if power ≤ maxPower then
      let scaled := f * powerOfTen power.toNat
      if scaled.isInf then .error .numberOutOfRange else .ok scaled
    else if f == 0 then .ok f else .error .numberOutOfRange
  else if -(maxPower : Int) ≤ power then .ok (f / powerOfTen (-power).toNat)
  else if f == 0 then .ok f
  else scale (f / powerOfTen maxPower) (power + maxPower)
termination_by (-power).toNat
decreasing_by simp only [maxPower] at *; omega

/-- The value of the exponent of a numeral. -/
def exponentValue (n : Numeral) : Int :=
  match n.exponent with
  | none => 0
  | some (negative, ds) =>
    if negative then -Int.ofNat (Text.ofDigits ds) else Int.ofNat (Text.ofDigits ds)

/-- The floating-point number that a numeral is rounded to. -/
def floatValue (n : Numeral) : Except Fault Float := do
  let (leading, dropped) := absorb 0 n.whole
  let (significand, ignored) := absorb leading n.fraction
  let power := Int.ofNat dropped - Int.ofNat (n.fraction.length - ignored) + n.exponentValue
  let f ← scale (Float.ofNat significand) power
  return if n.negative then -f else f

/-- Whether a numeral has neither point nor exponent. -/
def isWhole (n : Numeral) : Bool := n.fraction.isEmpty && n.exponent.isNone

/-- The number that a numeral stands for. -/
def value (n : Numeral) : Except Fault Number :=
  let v := Text.ofDigits n.whole
  if n.isWhole && !n.negative && decide (v ≤ maxWord) then .ok (.natural v)
  else if n.isWhole && n.negative && decide (0 < v) && decide (v ≤ signedBound) then
    .ok (.negative (-Int.ofNat v))
  else n.floatValue.map .fractional

end Numeral

end Turnstile.Json
