/-
# Skipping JSON values

A value that nobody asks for is skipped: its form is checked, but its numbers are not
valued and its surrogates not paired, and there is no limit to how deep it is nested.  What
is still open is kept on a stack.
-/
import Turnstile.Json.Reader

namespace Turnstile.Json

/-- A value with parts that is still open. -/
inductive Bracket where
  | array
  | object
deriving DecidableEq, Repr

namespace Bracket

/-- The letter that closes a bracket. -/
def closing : Bracket → Char
  | array => ']'
  | object => '\x7d'

/-- The fault of a text that ends inside a bracket. -/
def endFault : Bracket → Fault
  | array => .endOfArray
  | object => .endOfObject

/-- The fault of a letter after a part that is neither a comma nor the end. -/
def commaFault : Bracket → Fault
  | array => .expectedArrayEnd
  | object => .expectedObjectEnd

end Bracket

/-- Takes the colon after a key off a text. -/
def readColon (cs : List Char) : Except Fault (List Char) :=
  match skipSpace cs with
  | [] => .error .endOfObject
  | c :: rest => if c = ':' then .ok rest else .error .expectedColon

/-- Skips a key with its colon. -/
def skipKey (cs : List Char) : Except Fault (List Char) :=
  match skipSpace cs with
  | [] => .error .endOfObject
  | c :: rest => do
    if c = '"' then readColon (← skipString rest) else throw .keyNotString

/-- Skips what stands before the value of a part: in an object the key, in an array
nothing. -/
def skipLabel : Bracket → List Char → Except Fault (List Char)
  | .array, cs => .ok cs
  | .object, cs => skipKey cs

/-- Skips a numeral, whatever is wrong with a faulty one. -/
def skipNumeral (cs : List Char) : Except Fault (List Char) :=
  match Numeral.scan cs with
  | .ok (_, rest) => .ok rest
  | .error _ => .error .invalidNumber

/-- How far skipping has come. -/
inductive SkipState where
  /-- A value is due. -/
  | value (brackets : List Bracket) (rest : List Char)
  /-- A bracket has just been opened. -/
  | opened (bracket : Bracket) (brackets : List Bracket) (rest : List Char)
  /-- A value has just ended. -/
  | ended (brackets : List Bracket) (rest : List Char)

/-- Skips a value without parts, or opens a bracket. -/
def skipFront (brackets : List Bracket) (cs : List Char) : Except Fault SkipState :=
  match skipSpace cs with
  | [] => .error .endOfValue
  | '[' :: rest => .ok (.opened .array brackets rest)
  | '\x7b' :: rest => .ok (.opened .object brackets rest)
  | '"' :: rest => do return .ended brackets (← skipString rest)
  | 'n' :: rest => do return .ended brackets (← readWord ['u', 'l', 'l'] rest)
  | 't' :: rest => do return .ended brackets (← readWord ['r', 'u', 'e'] rest)
  | 'f' :: rest => do return .ended brackets (← readWord ['a', 'l', 's', 'e'] rest)
  | c :: rest =>
    if c = '-' ∨ c.isDigit then do return .ended brackets (← skipNumeral (c :: rest))
    else .error .expectedValue

/-- Goes on after a bracket has been opened. -/
def skipOpened (b : Bracket) (brackets : List Bracket) (cs : List Char) :
    Except Fault SkipState :=
  match skipSpace cs with
  | [] => .error b.endFault
  | c :: rest =>
    if c = b.closing then .ok (.ended brackets rest)
    else do return .value (b :: brackets) (← skipLabel b (c :: rest))

/-- Goes on after a part of an open bracket. -/
def skipEnded (b : Bracket) (brackets : List Bracket) (cs : List Char) :
    Except Fault SkipState :=
  match skipSpace cs with
  | [] => .error b.endFault
  | c :: rest =>
    if c = b.closing then .ok (.ended brackets rest)
    else if c = ',' then do return .value (b :: brackets) (← skipLabel b rest)
    else .error b.commaFault

/-- Skips on from a state, so many steps at most. -/
def skipFrom : Nat → SkipState → Except Fault (List Char)
  | 0, _ => .error .endOfValue
  | _ + 1, .ended [] rest => .ok rest
  | n + 1, .ended (b :: brackets) rest => do skipFrom n (← skipEnded b brackets rest)
  | n + 1, .opened b brackets rest => do skipFrom n (← skipOpened b brackets rest)
  | n + 1, .value brackets rest => do skipFrom n (← skipFront brackets rest)

/-- Skips a value.  Of two steps in a row, the last one aside, one takes a letter. -/
def skipValue (cs : List Char) : Except Fault (List Char) :=
  skipFrom (2 * cs.length + 2) (.value [] cs)

end Turnstile.Json
