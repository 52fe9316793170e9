/-
# Faults of JSON texts

What can be wrong with a text that is read as a value of a certain kind: it ends too early,
it has a letter where none or another one may stand, or it holds a value of another kind
than the one expected.
-/
import Turnstile.Decimal.Layout
import Turnstile.Error

namespace Turnstile.Json

/-- A number, by the range it belongs to. -/
inductive Number where
  /-- A whole number from zero to the greatest 64-bit count. -/
  | natural (n : Nat)
  /-- A whole number below zero, not below the least signed 64-bit number. -/
  | negative (i : Int)
  /-- Any other number, and every one that is written with a point or an exponent. -/
  | fractional (x : Float)
deriving DecidableEq, Repr

/-- What stands at the front of a text: a value without parts, or the opening bracket of
one with parts. -/
inductive Front where
  | null
  | flag (b : Bool)
  | number (n : Number)
  | text (s : String)
  | array
  | object
deriving DecidableEq, Repr

/-- How a fault report names what it found. -/
def Front.name : Front → String
  | null => "null"
  | flag b => s!"boolean `{b}`"
  | number (.natural n) => s!"integer `{n}`"
  | number (.negative i) => s!"integer `{i}`"
  | number (.fractional x) => s!"floating point `{Decimal.textOf x}`"
  | text s => s!"string {Text.quoted s}"
  | array => "sequence"
  | object => "map"

/-- What is wrong with a JSON text. -/
inductive Fault where
  /-- The text ends where a value should stand. -/
  | endOfValue
  | endOfString
  | endOfArray
  | endOfObject
  /-- No value begins with the letter that stands there. -/
  | expectedValue
  /-- A word that begins like `null`, `true` or `false` is none of them. -/
  | expectedWord
  | expectedColon
  | expectedArrayEnd
  | expectedObjectEnd
  | trailingComma
  /-- Something follows the value. -/
  | trailingCharacters
  | keyNotString
  | invalidNumber
  | numberOutOfRange
  | invalidEscape
  | controlCharacter
  /-- An escaped surrogate stands where none or another kind of surrogate should. -/
  | loneSurrogate
  /-- The second half of an escaped surrogate pair is absent. -/
  | endOfHexEscape
  /-- A value of another kind than the one expected. -/
  | wrongKind (found : Front) (expected : String)
  /-- A number of the right kind that is out of the expected range. -/
  | wrongRange (found : Number) (expected : String)
  | unknownVariant (name expected : String)
  | missingField (name : String)
  | duplicateField (name : String)
  /-- An array has too few elements for a record. -/
  | tooShort (length : Nat) (expected : String)
  /-- A text is not of the expected form. -/
  | malformed (what : String)
deriving DecidableEq, Repr

/-- The message of a fault. -/
def Fault.message : Fault → String
  | endOfValue => "EOF while parsing a value"
  | endOfString => "EOF while parsing a string"
  | endOfArray => "EOF while parsing a list"
  | endOfObject => "EOF while parsing an object"
  | expectedValue => "expected value"
  | expectedWord => "expected ident"
  | expectedColon => "expected `:`"
  | expectedArrayEnd => "expected `,` or `]`"
  | expectedObjectEnd => "expected `,` or `\x7d`"
  | trailingComma => "trailing comma"
  | trailingCharacters => "trailing characters"
  | keyNotString => "key must be a string"
  | invalidNumber => "invalid number"
  | numberOutOfRange => "number out of range"
  | invalidEscape => "invalid escape"
  | controlCharacter => "control character (\\u0000-\\u001F) found while parsing a string"
  | loneSurrogate => "lone leading surrogate in hex escape"
  | endOfHexEscape => "unexpected end of hex escape"
  | wrongKind found expected => s!"invalid type: {found.name}, expected {expected}"
  | wrongRange found expected =>
    "invalid value: " ++ Front.name (.number found) ++ ", expected " ++ expected
  | unknownVariant name expected => s!"unknown variant `{name}`, expected {expected}"
  | missingField name => s!"missing field `{name}`"
  | duplicateField name => s!"duplicate field `{name}`"
  | tooShort length expected => s!"invalid length {length}, expected {expected}"
  | malformed what => what

/-- The report of a fault. -/
def Fault.toError (f : Fault) : Error := .config f.message

end Turnstile.Json
