/-
# Numbers spelled out in digits

A count is spelled by decimal digits, maybe after a plus sign; leading zeros do not matter.
A signed number may have a minus sign in its place.
-/
import Turnstile.Word

namespace Turnstile

/-- The value of a decimal digit. -/
def Text.digitValue (c : Char) : Nat := c.toNat - '0'.toNat

/-- The number that decimal digits spell. -/
def Text.ofDigits (ds : List Char) : Nat := ds.foldl (fun n d => n * 10 + digitValue d) 0

/-- The count that a text spells, up to the greatest word. -/
def countOfText? (s : String) : Option Nat :=
  let ds := match s.toList with
    | '+' :: cs => cs
    | cs => cs
  if ds.isEmpty || !ds.all Char.isDigit then none
  else if Text.ofDigits ds ≤ maxWord then some (Text.ofDigits ds) else none

/-- The signed 64-bit number that a text spells. -/
def signedOfText? (s : String) : Option Int :=
  match s.toList with
  | '-' :: '+' :: _ => none
  | '-' :: cs => (countOfText? (String.ofList cs)).bind fun n =>
    if n ≤ signedBound then some (-Int.ofNat n) else none
  | _ => (countOfText? s).bind fun n => if n < signedBound then some (Int.ofNat n) else none

end Turnstile
