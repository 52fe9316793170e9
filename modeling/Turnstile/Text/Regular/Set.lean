/-
# Sets in regular expressions

A set stands in brackets: letters, ranges of letters, shorthands, named classes such as
`[:alpha:]` and other sets.  A caret at its front negates it.  Between its parts can stand
operators: `&&` for what two sets share, `--` for what the second one leaves of the first,
and `~~` for what only one of them has.
-/
import Turnstile.Text.Pieces
import Turnstile.Text.Regular.Atom
import Turnstile.Text.Regular.Height

namespace Turnstile.Text.Regular

/-- The names of the named classes. -/
def classNames : List String :=
  ["alnum", "alpha", "ascii", "blank", "cntrl", "digit", "graph", "lower", "print", "punct",
   "space", "upper", "word", "xdigit"]

/-- Reads a named class after its opening bracket: whether it is negated, and what follows. -/
def namedClass? : List Char → Option (Bool × List Char)
  | ':' :: '^' :: rest => (ending? rest).map (true, ·)
  | ':' :: rest => (ending? rest).map (false, ·)
  | _ => none
where
  /-- What follows a name and its end. -/
  ending? (cs : List Char) : Option (List Char) :=
    match cutAt (· == ':') cs with
    | some (name, ']' :: rest) =>
      if classNames.contains (String.ofList name) then some rest else none
    | _ => none

/-- Whether a named class may stand in a set. -/
def Modes.allowsClass (m : Modes) (negated : Bool) : Bool :=
  if m.unicode then !m.ignoresCase else !negated

/-- Reads a letter, a range or a shorthand of a set: what follows it. -/
def afterRange? (m : Modes) (cs : List Char) : Option (List Char) := do
  let (a, rest) ← Atom.ofList? m cs
  let alone := if a.fitsSet m then some (m.skip rest) else none
  match m.skip rest with
  | '-' :: after =>
    if m.peek? after = some ']' ∨ m.peek? after = some '-' then alone
    else
      match a, ← Atom.ofList? m (m.skip after) with
      | .letter c _, (.letter d isByte, rest) =>
        if a.fitsSet m && (Atom.letter d isByte).fitsSet m && c ≤ d then some rest else none
      | _, _ => none
  | _ => alone

/-- A set that is being read. -/
structure OpenSet where
  /-- The heights of the parts since the last operator, the last part first. -/
  parts : List Nat := []
  /-- The height of what stands to the left of the last operator. -/
  left : Option Nat := none

namespace OpenSet

/-- Adds a part of a height. -/
def add (s : OpenSet) (height : Nat) : OpenSet := { s with parts := height :: s.parts }

/-- The height of what is between the brackets. -/
def height (s : OpenSet) : Nat :=
  match s.left with
  | none => heightOf s.parts
  | some l => heightOf [l, heightOf s.parts]

/-- Adds an operator. -/
def operated (s : OpenSet) : OpenSet := { left := some s.height }

/-- Reads hyphens at the front of a set, which are letters. -/
def afterHyphens (m : Modes) (s : OpenSet) : Nat → List Char → OpenSet × List Char
  | 0, cs => (s, cs)
  | n + 1, cs =>
    match cs with
    | '-' :: rest => afterHyphens m (s.add 0) n (m.skip rest)
    | cs => (s, cs)

/-- Reads the front of a set after its opening bracket: the negation, hyphens, and a closing
bracket that is a letter because nothing precedes it. -/
def ofFront? (m : Modes) (cs : List Char) : Option (OpenSet × List Char) := do
  let (negated, cs) := match m.skip cs with
    | '^' :: rest => (true, m.skip rest)
    | rest => (false, rest)
  let (s, cs) := afterHyphens m {} cs.length cs
  let (s, cs) := match s.parts, cs with
    | [], ']' :: rest => (s.add 0, rest)
    | _, cs => (s, cs)
  if negated && !m.unicode then none
  else if s.parts.isEmpty || (Atom.plain '-').fitsSet m then return (s, cs)
  else none

end OpenSet

/-- Reads a set from some point on, with at most so many steps: its height and what follows
it.  The sets around it are given from the inside out. -/
def setFor (m : Modes) (s : OpenSet) (outer : List OpenSet) :
    Nat → List Char → Option (Nat × List Char)
  | 0, _ => none
  | n + 1, cs =>
    match m.skip cs with
    | [] => none
    | '[' :: rest =>
      match namedClass? rest with
      | some (negated, rest) =>
        if m.allowsClass negated then setFor m (s.add 0) outer n rest else none
      | none => do
        let (s', rest) ← OpenSet.ofFront? m rest
        setFor m s' (s :: outer) n rest
    | ']' :: rest =>
      match outer with
      | [] => some (s.height + 1, rest)
      | up :: outer => setFor m (up.add (s.height + 1)) outer n rest
    | '&' :: '&' :: rest | '-' :: '-' :: rest | '~' :: '~' :: rest =>
      setFor m s.operated outer n rest
    | cs => do setFor m (s.add 0) outer n (← afterRange? m cs)

/-- Reads a set after its opening bracket: its height and what follows it. -/
def set? (m : Modes) (cs : List Char) : Option (Nat × List Char) := do
  let (s, rest) ← OpenSet.ofFront? m cs
  setFor m s [] (rest.length + 1) rest

end Turnstile.Text.Regular
