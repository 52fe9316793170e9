/-
# Log filters

A filter lists directives with commas between them.  An event passes if the most specific
directive about it admits its level; of directives that are equally specific the last one
counts.
-/
import Turnstile.Console.Directive

namespace Turnstile

/-- A list of directives, the later ones winning. -/
structure LogFilter where
  directives : List Directive
deriving DecidableEq, Repr

namespace LogFilter

/-- The filter that lets everything up to a level pass. -/
def upTo (l : Level) : LogFilter := ⟨[{ rank := l.rank }]⟩

/-- Reads a filter up to the first directive that cannot be read; the empty filter lets
errors pass. -/
def ofText (s : String) : Except Directive.Trouble LogFilter := do
  let parts := (Text.pieces (· == ',') s.toList).filter fun cs => !cs.isEmpty
  if parts.isEmpty then return upTo .error
  else return ⟨(← parts.mapM Directive.ofList).flatMap Option.toList⟩

/-- The directive of two that decides, where the second one comes later. -/
def stronger (d e : Directive) : Directive := if e.isAsSpecific d then e else d

/-- The directive that decides on an event, if any is about it. -/
def deciding? (f : LogFilter) (e : Event) : Option Directive :=
  match f.directives.filter fun d => d.covers e with
  | [] => none
  | d :: ds => some (ds.foldl stronger d)

/-- Whether an event passes. -/
def allows (f : LogFilter) (e : Event) : Bool :=
  match f.deciding? e with
  | none => false
  | some d => decide (e.level.rank ≤ d.rank)

end LogFilter

end Turnstile
