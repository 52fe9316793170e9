/-
# Writing JSON values

Compact texts, without any space between their parts.
-/
import Turnstile.Json.Text

namespace Turnstile.Json

/-- Texts with commas between them. -/
def joined : List (List Char) → List Char
  | [] => []
  | [t] => t
  | t :: u :: ts => t ++ ',' :: joined (u :: ts)

/-- An array of written values. -/
def printArray (values : List (List Char)) : List Char := '[' :: (joined values ++ [']'])

/-- A member of an object: its name and its written value. -/
def printMember (name : String) (value : List Char) : List Char :=
  printString name ++ ':' :: value

/-- An object of written members. -/
def printObject (members : List (String × List Char)) : List Char :=
  '\x7b' :: (joined (members.map fun m => printMember m.1 m.2) ++ ['\x7d'])

/-- A written count. -/
def printCount (n : Nat) : List Char := Nat.toDigits 10 n

/-- A written flag. -/
def printFlag (b : Bool) : List Char := if b then "true".toList else "false".toList

end Turnstile.Json
