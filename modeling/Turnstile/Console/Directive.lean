/-
# Directives of log filters

A directive is a level for everything, or a target with a level for the events whose target
begins with it; a target alone lets everything of it pass.  Behind the target a directive can
name a span in brackets, and in braces inside of these a field with or without a value, as in
`target[span{field=value}]=level`.  Nothing here happens inside of a span, and no field has
its value compared, so that a directive that names a span or a value lets nothing pass.

A directive is read letter by letter, blanks at its ends aside.  What its parts say is then
cut out of the whole text, by bytes counted from the first letter that is no blank; with
blanks at the front the parts are hence shifted, and a cut can fall into the middle of a
letter.
-/
import Turnstile.Event
import Turnstile.Text.Bytes
import Turnstile.Text.Count
import Turnstile.Text.Name
import Turnstile.Text.Regular.Expression

namespace Turnstile

namespace Level

/-- All levels. -/
def all : List Level := [error, warn, info, debug, trace]

/-- The rank that a text names, by the name or number of a level; `off` and zero let nothing
pass. -/
def rankOfText? (s : String) : Option Nat :=
  match (countOfText? s).filter (· ≤ trace.rank) with
  | some n => some n
  | none =>
    if Text.sameName s "off" then some 0
    else (all.find? fun l => Text.sameName s l.name).map rank

end Level

/-- A directive of a filter. -/
structure Directive where
  /-- What the targets begin with; everything does with the empty text. -/
  target : String := ""
  /-- The name of the field that an event must have. -/
  field : Option String := none
  /-- The rank up to which events pass. -/
  rank : Nat
deriving DecidableEq, Repr

namespace Directive

/-- Why a directive cannot be read. -/
inductive Trouble where
  | faulty
  /-- A cut falls into the middle of a letter. -/
  | brokenLetter
deriving DecidableEq, Repr

/-! ## The parts of a directive -/

/-- What a directive says about a field. -/
structure FieldTest where
  name : String
  hasValue : Bool
deriving DecidableEq, Repr

/-- Whether letters are a number without a sign, or a word for infinity or for no number. -/
def isUnsigned (cs : List Char) : Bool :=
  let rest := cs.dropWhile Char.isDigit
  let (fraction, rest) := match rest with
    | '.' :: rest => (rest.takeWhile Char.isDigit, rest.dropWhile Char.isDigit)
    | rest => ([], rest)
  let digits := cs.takeWhile Char.isDigit ++ fraction
  ["inf", "infinity", "nan"].any (fun w => Text.folded cs == w.toList) ||
    (!digits.isEmpty && (rest.isEmpty || isExponent rest))
where
  /-- Whether letters are an exponent. -/
  isExponent : List Char → Bool
    | c :: '+' :: cs | c :: '-' :: cs => c.toLower == 'e' && isCount cs
    | c :: cs => c.toLower == 'e' && isCount cs
    | [] => false
  /-- Whether letters are digits, and there are some. -/
  isCount (cs : List Char) : Bool := !cs.isEmpty && cs.all Char.isDigit

/-- Whether letters can be the value of a field: a number, or else a regular expression. -/
def isValue (cs : List Char) : Bool :=
  Text.Regular.isExpression cs ||
    match cs with
    | '+' :: cs => isUnsigned cs
    | _ => false

/-- Reads what a directive says about a field: its name and, behind an equals sign, a value;
what follows another equals sign does not matter. -/
def FieldTest.ofList? (cs : List Char) : Option FieldTest :=
  match Text.pieces (· == '=') cs with
  | name :: value :: _ =>
    if isValue value then some ⟨String.ofList name, true⟩ else none
  | _ => if cs.isEmpty then none else some ⟨String.ofList cs, false⟩

/-- What has been read of a directive. -/
structure Draft where
  target : String := ""
  hasSpan : Bool := false
  field : Option FieldTest := none
  rank : Nat := Level.trace.rank
deriving DecidableEq, Repr

/-- The directive that a draft comes to, unless it lets nothing pass. -/
def Draft.directive? (d : Draft) : Option Directive :=
  if d.hasSpan then none
  else
    match d.field with
    | none => some ⟨d.target, none, d.rank⟩
    | some f => if f.hasValue then none else some ⟨d.target, some f.name, d.rank⟩

/-! ## Reading a directive -/

/-- What is being read.  Numbers are those of the bytes before it. -/
inductive Stage where
  | start
  /-- A level or a target. -/
  | name
  | span (first : Nat)
  | field (first : Nat)
  | afterField
  | afterSpan
  | level (first : Nat)
deriving DecidableEq, Repr

/-- Whether a character can begin a level or a target. -/
def beginsName (c : Char) : Bool := Text.isAlphanumeric c || c == '_' || c == ':' || c == '-'

/-- What stands between two numbers of bytes. -/
def cut (whole : List Char) (first last : Nat) : Except Trouble (List Char) :=
  match Text.slice? whole first last with
  | some cs => .ok cs
  | none => .error .brokenLetter

/-- Reads one letter; `place` is the number of bytes before it. -/
def step (whole : List Char) (place : Nat) (c : Char) (stage : Stage) (d : Draft) :
    Except Trouble (Stage × Draft) := do
  match stage with
  | .start =>
    if c = '[' then return (.span (place + 1), d)
    else if beginsName c then return (.name, d)
    else throw .faulty
  | .name =>
    if c = '=' then
      return (.level (place + 1), { d with target := String.ofList (← cut whole 0 place) })
    else if c = '[' then
      return (.span (place + 1), { d with target := String.ofList (← cut whole 0 place) })
    else return (.name, d)
  | .span first =>
    if c = ']' then
      let _ ← cut whole first place
      return (.afterSpan, { d with hasSpan := true })
    else if c = '\x7b' then
      let span ← cut whole first place
      return (.field (place + 1), { d with hasSpan := !span.isEmpty })
    else return (stage, d)
  | .field first =>
    if c = '\x7d' then
      match FieldTest.ofList? (← cut whole first place) with
      | some f => return (.afterField, { d with field := some f })
      | none => throw .faulty
    else return (stage, d)
  | .afterField => if c = ']' then return (.afterSpan, d) else throw .faulty
  | .afterSpan => if c = '=' then return (.level (place + 1), d) else throw .faulty
  | .level _ => return (stage, d)

/-- Reads letters from a place on. -/
def steps (whole : List Char) (place : Nat) (stage : Stage) (d : Draft) :
    List Char → Except Trouble (Stage × Draft)
  | [] => .ok (stage, d)
  | c :: cs => do
    let (stage, d) ← step whole place c stage d
    steps whole (place + c.utf8Size) stage d cs

/-- Completes a directive at its end. -/
def finish (whole : List Char) (stage : Stage) (d : Draft) : Except Trouble Draft :=
  match stage with
  | .name =>
    let s := String.ofList whole
    match Level.rankOfText? s with
    | some rank => .ok { d with rank := rank }
    | none => .ok { d with target := s }
  | .level first =>
    match Text.sliceFrom? whole first with
    | none => .error .brokenLetter
    | some [] => .ok d
    | some cs =>
      match Level.rankOfText? (String.ofList cs) with
      | some rank => .ok { d with rank := rank }
      | none => .error .faulty
  | .afterSpan => .ok d
  | _ => .error .faulty

/-- Reads a directive; one that lets nothing pass is left out. -/
def ofList (whole : List Char) : Except Trouble (Option Directive) := do
  let (stage, d) ← steps whole 0 .start {} (Text.trimList whole)
  return (← finish whole stage d).directive?

/-! ## Directives and events -/

/-- Whether a directive is about an event. -/
def covers (d : Directive) (e : Event) : Bool :=
  d.target.toList.isPrefixOf e.source.target.toList &&
    match d.field with
    | none => true
    | some f => f == "message" || e.fields.any fun g => g.1 == f

/-- Whether a directive is as specific as another one or more so: its target is longer or,
among targets of one length, its field comes later, with no field before all others. -/
def isAsSpecific (d e : Directive) : Bool :=
  ((compare d.target.length e.target.length).then (compare d.field e.field)).isGE

end Directive

end Turnstile
