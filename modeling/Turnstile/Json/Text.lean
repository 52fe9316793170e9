/-
# JSON strings

A string stands between double quotes.  Inside, a backslash begins an escape, which is a
letter of its own or `u` with four hexadecimal digits; a character beyond four digits is
escaped as two surrogates.  Control characters may not stand for themselves.

When a string is written, quotes, backslashes and control characters are escaped, and all
else stands for itself.
-/
import Turnstile.Json.Fault
import Turnstile.Text.Bytes
import Turnstile.Text.Hex

namespace Turnstile.Json

/-- A text that is shorter than another one. -/
abbrev Shorter (cs : List Char) : Type := { rest : List Char // rest.length < cs.length }

/-! ## Reading -/

/-- The character of a one-letter escape. -/
def letterEscape? : Char → Option Char
  | '"' => some '"'
  | '\\' => some '\\'
  | '/' => some '/'
  | 'b' => some '\x08'
  | 'f' => some '\x0c'
  | 'n' => some '\n'
  | 'r' => some '\r'
  | 't' => some '\t'
  | _ => none

/-- Whether a number is a first surrogate. -/
def isLeading (n : Nat) : Bool := 0xD800 ≤ n && n ≤ 0xDBFF

/-- Whether a number is a second surrogate. -/
def isTrailing (n : Nat) : Bool := 0xDC00 ≤ n && n ≤ 0xDFFF

/-- The fault of an escape that lacks its four hexadecimal digits: the text ends within four
bytes, or something else stands there. -/
def hexFault (cs : List Char) : Fault :=
  if Text.byteLength (cs.take 4) < 4 then .endOfString else .invalidEscape

/-- Reads four hexadecimal digits. -/
def readHex (cs : List Char) : Except Fault (Nat × Shorter cs) :=
  match h : cs with
  | a :: b :: c :: d :: rest =>
    match Text.hexValue? [a, b, c, d] with
    | some n => .ok (n, ⟨rest, by simp +arith⟩)
    | none => .error (hexFault cs)
  | _ => .error (hexFault cs)

/-- Reads the second half of a surrogate pair. -/
def readSecond (first : Nat) (cs : List Char) : Except Fault (Char × Shorter cs) :=
  match h : cs with
  | '\\' :: 'u' :: cs' => do
    let (n, ⟨rest, hr⟩) ← readHex cs'
    if isTrailing n then
      return (Char.ofNat ((first - 0xD800) * 0x400 + (n - 0xDC00) + 0x10000),
        ⟨rest, by simp; omega⟩)
    else throw .loneSurrogate
  | [] | ['\\'] => .error .endOfString
  | _ => .error .endOfHexEscape

/-- Reads the character of an escape after its `u`. -/
def readUnicode (cs : List Char) : Except Fault (Char × Shorter cs) := do
  let (n, ⟨rest, h⟩) ← readHex cs
  if isTrailing n then throw .loneSurrogate
  else if isLeading n then
    let (c, ⟨rest', h'⟩) ← readSecond n rest
    return (c, ⟨rest', by omega⟩)
  else return (Char.ofNat n, ⟨rest, h⟩)

/-- Reads the character of an escape after its backslash. -/
def readEscape (cs : List Char) : Except Fault (Char × Shorter cs) :=
  match h : cs with
  | [] => .error .endOfString
  | 'u' :: cs' => do
    let (c, ⟨rest, hr⟩) ← readUnicode cs'
    return (c, ⟨rest, by simp; omega⟩)
  | c :: cs' =>
    match letterEscape? c with
    | some e => .ok (e, ⟨cs', by simp⟩)
    | none => .error .invalidEscape

/-- Whether a character may not stand for itself in a string. -/
def isControl (c : Char) : Bool := c.toNat < 0x20

/-- Reads a string after its opening quote, given the characters before in reverse. -/
def readRest (before : List Char) (cs : List Char) : Except Fault (List Char × List Char) :=
  match cs with
  | [] => .error .endOfString
  | '"' :: cs' => .ok (before.reverse, cs')
  | '\\' :: cs' => do
    let (c, ⟨rest, _⟩) ← readEscape cs'
    readRest (c :: before) rest
  | c :: cs' => if isControl c then .error .controlCharacter else readRest (c :: before) cs'
termination_by cs.length
decreasing_by all_goals simp_all; try omega

/-- Reads a string after its opening quote. -/
def readString (cs : List Char) : Except Fault (String × List Char) := do
  let (s, rest) ← readRest [] cs
  return (String.ofList s, rest)

/-! ## Skipping -/

/-- Skips an escape after its backslash: surrogates are not paired. -/
def skipEscape (cs : List Char) : Except Fault (Shorter cs) :=
  match h : cs with
  | [] => .error .endOfString
  | 'u' :: cs' => do
    let (_, ⟨rest, hr⟩) ← readHex cs'
    return ⟨rest, by simp; omega⟩
  | c :: cs' => if (letterEscape? c).isSome then .ok ⟨cs', by simp⟩ else .error .invalidEscape

/-- Skips a string after its opening quote. -/
def skipString (cs : List Char) : Except Fault (List Char) :=
  match cs with
  | [] => .error .endOfString
  | '"' :: cs' => .ok cs'
  | '\\' :: cs' => do
    let ⟨rest, _⟩ ← skipEscape cs'
    skipString rest
  | c :: cs' => if isControl c then .error .controlCharacter else skipString cs'
termination_by cs.length
decreasing_by all_goals simp_all; try omega

/-! ## Writing -/

/-- How one character is written inside a string. -/
def escaped (c : Char) : List Char :=
  if c = '"' then ['\\', '"']
  else if c = '\\' then ['\\', '\\']
  else if c = '\x08' then ['\\', 'b']
  else if c = '\x0c' then ['\\', 'f']
  else if c = '\n' then ['\\', 'n']
  else if c = '\r' then ['\\', 'r']
  else if c = '\t' then ['\\', 't']
  else if isControl c then '\\' :: 'u' :: Text.lastHexDigits 4 c.toNat
  else [c]

/-- A text as a string between quotes. -/
def printString (s : String) : List Char := '"' :: (s.toList.flatMap escaped ++ ['"'])

end Turnstile.Json
