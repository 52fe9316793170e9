/-
# The atoms of regular expressions

A regular expression is read under modes, which its own parts can switch.  Its atoms are
letters, written as they are or escaped, edges of lines, texts and words, and shorthands for
classes of letters.

What is read here are expressions that search UTF-8 texts, without tables of the classes and
cases of letters beyond ASCII.  In the Unicode mode there are hence no shorthands, no edges
of words and no letters whose case is ignored.  Outside of it nothing may match a part of a
letter.
-/
import Turnstile.Text.Blank
import Turnstile.Text.Hex

namespace Turnstile.Text.Regular

/-- How a part of an expression is read. -/
structure Modes where
  ignoresCase : Bool := false
  /-- Whether letters are those of Unicode, and not bytes. -/
  unicode : Bool := true
  /-- Whether blanks, and comments from `#` to the end of the line, stand for nothing. -/
  verbose : Bool := false
deriving DecidableEq, Repr

/-! ## Blanks and comments -/

/-- What follows blanks and comments. -/
def afterFree (inComment : Bool) : List Char → List Char
  | [] => []
  | c :: cs =>
    if inComment then afterFree (c != '\n') cs
    else if isBlank c then afterFree false cs
    else if c = '#' then afterFree true cs
    else c :: cs

/-- What follows the letters that stand for nothing. -/
def Modes.skip (m : Modes) (cs : List Char) : List Char :=
  if m.verbose then afterFree false cs else cs

/-- The next letter that stands for something; the beginning of a comment is passed over, but
not the comment. -/
def Modes.peek? (m : Modes) (cs : List Char) : Option Char :=
  if m.verbose then
    match cs.dropWhile isBlank with
    | '#' :: rest => (rest.dropWhile isBlank).head?
    | rest => rest.head?
  else cs.head?

/-! ## Atoms -/

/-- A part of an expression that has no parts. -/
inductive Atom where
  /-- A letter; as a byte if its two hexadecimal digits are given. -/
  | letter (c : Char) (isByte : Bool)
  /-- An edge of a line or of the text. -/
  | edge
  | wordEdge
  /-- Digits, blanks or letters of words, or all others. -/
  | shorthand (negated : Bool)
deriving DecidableEq, Repr

namespace Atom

/-- Whether an atom may stand outside of sets. -/
def isUsable (m : Modes) : Atom → Bool
  | letter c isByte => if m.unicode then !m.ignoresCase else !isByte || c.toNat < 0x80
  | edge => true
  | wordEdge => !m.unicode
  | shorthand negated => !m.unicode && !negated

/-- Whether an atom may stand in a set. -/
def fitsSet (m : Modes) : Atom → Bool
  | letter c _ => if m.unicode then !m.ignoresCase else c.toNat < 0x80
  | edge | wordEdge => false
  | shorthand negated => !m.unicode && !negated

/-- The atom of a letter that stands for itself. -/
def plain (c : Char) : Atom := letter c false

/-! ## Escapes -/

/-- The letters that stand for a control character after a backslash. -/
def controls : List (Char × Char) :=
  [('a', '\x07'), ('f', '\x0c'), ('t', '\t'), ('n', '\n'), ('r', '\r'), ('v', '\x0b')]

/-- Reads so many hexadecimal digits. -/
def hexDigits? (m : Modes) : Nat → List Char → Option (List Char × List Char)
  | 0, cs => some ([], cs)
  | n + 1, cs =>
    match m.skip cs with
    | [] => none
    | c :: rest =>
      if (hexDigit? c).isSome then (hexDigits? m n rest).map fun p => (c :: p.1, p.2) else none

/-- Reads a letter given by so many hexadecimal digits. -/
def ofHex? (m : Modes) (digits : Nat) (cs : List Char) : Option (Atom × List Char) := do
  let (ds, rest) ← hexDigits? m digits cs
  let n ← hexValue? ds
  if n.isValidChar then return (letter (Char.ofNat n) (digits == 2), rest) else none

/-- Reads what follows a backslash.  Whatever is neither a letter nor a digit stands for
itself. -/
def ofEscape? (m : Modes) : List Char → Option (Atom × List Char)
  | [] => none
  | c :: rest =>
    match controls.lookup c with
    | some d => some (plain d, rest)
    | none =>
      if c = 'x' then ofHex? m 2 rest
      else if c = 'u' then ofHex? m 4 rest
      else if c = 'U' then ofHex? m 8 rest
      else if ['d', 's', 'w'].contains c then some (shorthand false, rest)
      else if ['D', 'S', 'W'].contains c then some (shorthand true, rest)
      else if ['A', 'z'].contains c then some (edge, rest)
      else if ['b', 'B', '<', '>'].contains c then some (wordEdge, rest)
      else if c.toNat < 0x80 ∧ !c.isAlphanum then some (plain c, rest)
      else none

/-- Reads a letter of a set or an escape. -/
def ofList? (m : Modes) : List Char → Option (Atom × List Char)
  | [] => none
  | c :: rest => if c = '\\' then ofEscape? m rest else some (plain c, rest)

end Atom

end Turnstile.Text.Regular
