/-
# Well-formed regular expressions

An expression is a row of parts with `|` between alternatives.  A part is an atom, a set, a
group in parentheses, or one of these repeated by `?`, `*` or `+`.  A group can have a name,
as in `(?<name>…)`, or switch modes: `(?i:…)` for itself, `(?i)` for what follows it in the
group around it.  A brace begins a counted repetition, which is not provided for.

`isExpression` reads an expression part by part, holding the groups that are open.
-/
import Turnstile.Text.Alphanumeric
import Turnstile.Text.Regular.Set

namespace Turnstile.Text.Regular

/-! ## The front of a group -/

/-- The letters that switch modes. -/
def switches : List Char := ['i', 'm', 's', 'U', 'u', 'R', 'x']

/-- Whether letters switch modes: on or, behind a hyphen, off, and none of them twice. -/
def areSwitches (cs : List Char) : Bool :=
  cs.all (fun c => c == '-' || switches.contains c) && decide cs.Nodup && cs.getLast? != some '-'

/-- A mode after switches. -/
def switched (cs : List Char) (c : Char) (now : Bool) : Bool :=
  if (cs.takeWhile (· != '-')).contains c then true
  else if cs.contains c then false
  else now

/-- The modes after switches. -/
def Modes.after (m : Modes) (cs : List Char) : Modes where
  ignoresCase := switched cs 'i' m.ignoresCase
  unicode := switched cs 'u' m.unicode
  verbose := switched cs 'x' m.verbose

/-- Whether letters can be the name of a group. -/
def isGroupName : List Char → Bool
  | [] => false
  | c :: cs =>
    (c == '_' || isLetter c) &&
      cs.all fun d => ['_', '.', '[', ']'].contains d || isAlphanumeric d

/-- What begins with an opening parenthesis. -/
inductive Opening where
  /-- A group with its own modes, and maybe a name. -/
  | group (m : Modes) (name : Option String)
  /-- Other modes for the rest of the group around it. -/
  | modes (m : Modes)
deriving DecidableEq, Repr

/-- Reads the name of a group and its end. -/
def Opening.named? (m : Modes) (cs : List Char) : Option (Opening × List Char) := do
  let (name, rest) ← cutAt (· == '>') cs
  if isGroupName name then return (group m (String.ofList name), rest) else none

/-- Reads switches up to a colon or a closing parenthesis. -/
def Opening.switching? (m : Modes) (cs : List Char) : Option (Opening × List Char) := do
  let letters := cs.takeWhile fun c => c != ':' && c != ')'
  if !areSwitches letters then none
  else
    match cs.drop letters.length with
    | ':' :: rest => return (group (m.after letters) none, rest)
    | ')' :: rest => if letters.isEmpty then none else return (modes (m.after letters), rest)
    | _ => none

/-- Reads what follows an opening parenthesis.  Groups that look ahead or behind are not
provided for. -/
def Opening.ofList? (m : Modes) (cs : List Char) : Option (Opening × List Char) :=
  match m.skip cs with
  | '?' :: '=' :: _ | '?' :: '!' :: _ | '?' :: '<' :: '=' :: _ | '?' :: '<' :: '!' :: _ => none
  | '?' :: 'P' :: '<' :: rest | '?' :: '<' :: rest => named? m rest
  | '?' :: rest => switching? m rest
  | rest => some (group m none, rest)

/-! ## Parts -/

/-- A part of an expression: its height, and whether it can be repeated. -/
structure Part where
  height : Nat
  isRepeatable : Bool := true
deriving DecidableEq, Repr

/-- A group that is being read. -/
structure OpenGroup where
  modes : Modes := {}
  /-- The parts of the alternative that is being read, the last one first. -/
  parts : List Part := []
  /-- The heights of the alternatives before it. -/
  alternatives : List Nat := []

namespace OpenGroup

/-- Adds a part. -/
def add (g : OpenGroup) (p : Part) : OpenGroup := { g with parts := p :: g.parts }

/-- The height of the parts of the alternative that is being read. -/
def rowHeight (g : OpenGroup) : Nat := heightOf (g.parts.map Part.height)

/-- The height of what has been read. -/
def height (g : OpenGroup) : Nat := heightOf (g.rowHeight :: g.alternatives)

/-- Begins another alternative. -/
def alternated (g : OpenGroup) : OpenGroup :=
  { g with parts := [], alternatives := g.rowHeight :: g.alternatives }

/-- Repeats the last part. -/
def repeated? (g : OpenGroup) : Option OpenGroup :=
  match g.parts with
  | ⟨height, true⟩ :: parts => some { g with parts := ⟨height + 1, true⟩ :: parts }
  | _ => none

/-- Reads a set or an atom. -/
def take? (g : OpenGroup) : List Char → Option (OpenGroup × List Char)
  | '[' :: cs => (set? g.modes cs).map fun p => (g.add ⟨p.1, true⟩, p.2)
  | '.' :: cs => if g.modes.unicode then some (g.add ⟨0, true⟩, cs) else none
  | '^' :: cs | '$' :: cs => some (g.add ⟨0, true⟩, cs)
  | cs => do
    let (a, rest) ← Atom.ofList? g.modes cs
    if a.isUsable g.modes then return (g.add ⟨0, true⟩, rest) else none

end OpenGroup

/-! ## Expressions -/

/-- Reads an expression from some point on, with at most so many steps.  The groups around
the one that is being read are given from the inside out, and the names given so far too. -/
def readFor (names : List String) (g : OpenGroup) (outer : List OpenGroup) :
    Nat → List Char → Bool
  | 0, _ => false
  | n + 1, cs =>
    match g.modes.skip cs with
    | [] => outer.isEmpty && decide (g.height ≤ greatestHeight)
    | c :: rest =>
      if c = '(' then
        match Opening.ofList? g.modes rest with
        | none => false
        | some (.modes m, rest) =>
          readFor names ({ g with modes := m }.add ⟨0, false⟩) outer n rest
        | some (.group m name, rest) =>
          let given := name.toList
          !given.any names.contains &&
            readFor (given ++ names) { modes := m } (g :: outer) n rest
      else if c = ')' then
        match outer with
        | [] => false
        | up :: outer => readFor names (up.add ⟨g.height + 1, true⟩) outer n rest
      else if c = '|' then readFor names g.alternated outer n rest
      else if c = '\x7b' then false
      else if ['?', '*', '+'].contains c then
        match g.repeated? with
        | none => false
        | some g => readFor names g outer n rest
      else
        match g.take? (c :: rest) with
        | none => false
        | some (g, rest) => readFor names g outer n rest

/-- Whether a text is a regular expression. -/
def isExpression (cs : List Char) : Bool := readFor [] {} [] (cs.length + 1) cs

end Turnstile.Text.Regular
