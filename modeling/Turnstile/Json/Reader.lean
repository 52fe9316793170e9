/-
# Reading JSON values

A `Reader` takes a value of one kind off the front of a text.  There is no tree of values in
between: a reader knows what it expects, and faults as soon as something else comes, so that
of several faults in a text the first one is reported.
-/
import Turnstile.Json.Number
import Turnstile.Json.Text

namespace Turnstile.Json

/-- Takes a value off the front of a text, or tells what is wrong with it. -/
abbrev Reader (α : Type) : Type := List Char → Except Fault (α × List Char)

/-- Whether a character may stand between the parts of a text. -/
def isSpace (c : Char) : Bool := c == ' ' || c == '\n' || c == '\t' || c == '\r'

/-- A text without the space at its front. -/
def skipSpace (cs : List Char) : List Char := cs.dropWhile isSpace

/-- Takes the letters of a word off the front of a text. -/
def readWord : List Char → List Char → Except Fault (List Char)
  | [], cs => .ok cs
  | _ :: _, [] => .error .endOfValue
  | w :: ws, c :: cs => if c = w then readWord ws cs else .error .expectedWord

/-- Reads a numeral as a number. -/
def readNumber : Reader Number := fun cs => do
  let (n, rest) ← Numeral.scan cs
  return (← n.value, rest)

/-- Reads a value without parts, or the opening bracket of one with parts. -/
def readFront (cs : List Char) : Except Fault (Front × List Char) :=
  match skipSpace cs with
  | [] => .error .endOfValue
  | '[' :: rest => .ok (.array, rest)
  | '\x7b' :: rest => .ok (.object, rest)
  | '"' :: rest => do
    let (s, rest) ← readString rest
    return (.text s, rest)
  | 'n' :: rest => do return (.null, ← readWord ['u', 'l', 'l'] rest)
  | 't' :: rest => do return (.flag true, ← readWord ['r', 'u', 'e'] rest)
  | 'f' :: rest => do return (.flag false, ← readWord ['a', 'l', 's', 'e'] rest)
  | c :: rest =>
    if c = '-' ∨ c.isDigit then do
      let (n, rest) ← readNumber (c :: rest)
      return (.number n, rest)
    else .error .expectedValue

/-! ## Values without parts -/

/-- Reads a value without parts by what stands at the front of the text. -/
def scalar {α : Type} (accept : Front → Except Fault α) : Reader α := fun cs => do
  let (f, rest) ← readFront cs
  return (← accept f, rest)

/-- Reads a text, of which a fault report says that `expected` was expected. -/
def readTextAs (expected : String) : Reader String := scalar fun
  | .text s => .ok s
  | f => .error (.wrongKind f expected)

/-- Reads a text. -/
def readText : Reader String := readTextAs "a string"

/-- Reads `true` or `false`. -/
def readFlag : Reader Bool := scalar fun
  | .flag b => .ok b
  | f => .error (.wrongKind f "a boolean")

/-- Reads `null`. -/
def readNull : Reader Unit := scalar fun
  | .null => .ok ()
  | f => .error (.wrongKind f "unit")

/-- Reads a 64-bit count, of which a fault report says that `expected` was expected. -/
def readCountAs (expected : String) : Reader Nat := scalar fun
  | .number (.natural n) => .ok n
  | .number (.negative i) => .error (.wrongRange (.negative i) expected)
  | f => .error (.wrongKind f expected)

/-- Reads a 64-bit count. -/
def readCount : Reader Nat := readCountAs "u64"

/-- Reads a count of things in memory. -/
def readSize : Reader Nat := readCountAs "usize"

/-- Reads a signed 64-bit number. -/
def readSigned : Reader Int := scalar fun
  | .number (.negative i) => .ok i
  | .number (.natural n) =>
    if n < signedBound then .ok n else .error (.wrongRange (.natural n) "i64")
  | f => .error (.wrongKind f "i64")

/-! ## Arrays -/

/-- Goes on to the next element of an array: the text from that element on, or none if the
array ends here, which leaves the text at the closing bracket. -/
def nextElement (first : Bool) (cs : List Char) : Except Fault (Option (List Char)) :=
  match skipSpace cs with
  | [] => .error .endOfArray
  | c :: rest =>
    if c = ']' then .ok none
    else if first then .ok (some (c :: rest))
    else if c = ',' then
      match skipSpace rest with
      | [] => .error .endOfValue
      | d :: rest' => if d = ']' then .error .trailingComma else .ok (some (d :: rest'))
    else .error .expectedArrayEnd

/-- Takes the closing bracket of an array off a text. -/
def endArray (cs : List Char) : Except Fault (List Char) :=
  match skipSpace cs with
  | [] => .error .endOfArray
  | ']' :: rest => .ok rest
  | ',' :: rest =>
    match skipSpace rest with
    | ']' :: _ => .error .trailingComma
    | _ => .error .trailingCharacters
  | _ :: _ => .error .trailingCharacters

/-- Reads the elements of an array up to its closing bracket, at most so many. -/
def elementsFor {α : Type} (read : Reader α) (first : Bool) (cs : List Char) :
    Nat → Except Fault (List α × List Char)
  | 0 => .error .endOfArray
  | n + 1 => do
    match ← nextElement first cs with
    | none => return ([], ← endArray cs)
    | some cs => do
      let (a, cs) ← read cs
      let (as, cs) ← elementsFor read false cs n
      return (a :: as, cs)

/-- Reads an array.  Every element takes at least one letter, so that there are no more of
them than the text has letters. -/
def readArray {α : Type} (read : Reader α) : Reader (List α) := fun cs => do
  match ← readFront cs with
  | (.array, rest) => elementsFor read true rest (rest.length + 1)
  | (f, _) => throw (.wrongKind f "a sequence")

/-! ## Whole texts -/

/-- Reads a text that holds one value and nothing else. -/
def readWhole {α : Type} (read : Reader α) (s : String) : Except Fault α := do
  let (a, rest) ← read s.toList
  if (skipSpace rest).isEmpty then return a else throw .trailingCharacters

end Turnstile.Json
