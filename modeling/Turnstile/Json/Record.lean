/-
# Reading records

A record is written as an object, with its fields in any sequence, or as an array, with its
fields in the sequence of their declaration.  A `Field` says how the value of one field is
read into a record; the record begins as a blank, in which fields that may be left out have
their value already.

In an object, unknown fields are skipped and a field that comes twice is a fault.
-/
import Turnstile.Json.Skip

namespace Turnstile.Json

/-- A field of a record type `ρ`. -/
structure Field (ρ : Type) where
  name : String
  /-- Whether the blank record's value stands if the field is left out. -/
  optional : Bool
  /-- Reads the value of the field into a record. -/
  fill : ρ → Reader ρ

/-- How records of a type are read. -/
structure Schema (ρ : Type) where
  /-- The name of the type in fault reports. -/
  name : String
  /-- The record that reading begins with. -/
  blank : ρ
  /-- The fields in the sequence of their declaration. -/
  fields : List (Field ρ)

/-- A field that is read with a reader and set with a function. -/
def field {ρ α : Type} (name : String) (read : Reader α) (set : ρ → α → ρ) : Field ρ where
  name := name
  optional := false
  fill r cs := do
    let (a, rest) ← read cs
    return (set r a, rest)

/-- The same field, but it may be left out. -/
def Field.orBlank {ρ : Type} (f : Field ρ) : Field ρ := { f with optional := true }

/-! ## Records as arrays -/

/-- Reads fields as the elements of an array from a place on. -/
def fillElements {ρ : Type} (expected : String) (first : Bool) (index : Nat) (r : ρ)
    (cs : List Char) : List (Field ρ) → Except Fault (ρ × List Char)
  | [] => .ok (r, cs)
  | f :: fs => do
    match ← nextElement first cs with
    | some cs' =>
      let (r', rest) ← f.fill r cs'
      fillElements expected false (index + 1) r' rest fs
    | none =>
      if f.optional then fillElements expected first (index + 1) r cs fs
      else throw (.tooShort index expected)

/-- Reads a record as an array after its opening bracket. -/
def Schema.readElements {ρ : Type} (s : Schema ρ) : Reader ρ := fun cs => do
  let expected := "struct " ++ s.name ++ s!" with {s.fields.length} elements"
  let (r, rest) ← fillElements expected true 0 s.blank cs s.fields
  return (r, ← endArray rest)

/-! ## Records as objects -/

/-- Goes on to the next key of an object: the text after the key's opening quote, or none if
the object ends here, which leaves the text at the closing brace. -/
def nextKey (first : Bool) (cs : List Char) : Except Fault (Option (List Char)) :=
  match skipSpace cs with
  | [] => .error .endOfObject
  | '\x7d' :: _ => .ok none
  | c :: rest =>
    if first then
      if c = '"' then .ok (some rest) else .error .keyNotString
    else if c = ',' then
      match skipSpace rest with
      | [] => .error .endOfValue
      | '"' :: rest' => .ok (some rest')
      | '\x7d' :: _ => .error .trailingComma
      | _ :: _ => .error .keyNotString
    else .error .expectedObjectEnd

/-- Takes the closing brace of an object off a text. -/
def endObject (cs : List Char) : Except Fault (List Char) :=
  match skipSpace cs with
  | [] => .error .endOfObject
  | '\x7d' :: rest => .ok rest
  | ',' :: _ => .error .trailingComma
  | _ :: _ => .error .trailingCharacters

/-- Reads the value of a key into a record, given the names of the fields so far. -/
def Schema.readMember {ρ : Type} (s : Schema ρ) (key : String) (seen : List String) (r : ρ)
    (cs : List Char) : Except Fault (ρ × List String × List Char) := do
  match s.fields.find? fun f => f.name == key with
  | none => return (r, seen, ← skipValue (← readColon cs))
  | some f =>
    if seen.contains key then throw (.duplicateField key)
    else
      let (r', rest) ← f.fill r (← readColon cs)
      return (r', key :: seen, rest)

/-- The first field that must be there but is not. -/
def Schema.missing? {ρ : Type} (s : Schema ρ) (seen : List String) : Option String :=
  (s.fields.find? fun f => !f.optional && !seen.contains f.name).map Field.name

/-- Reads the members of an object up to its closing brace, at most so many. -/
def Schema.membersFor {ρ : Type} (s : Schema ρ) (first : Bool) (seen : List String) (r : ρ)
    (cs : List Char) : Nat → Except Fault (ρ × List Char)
  | 0 => .error .endOfObject
  | n + 1 => do
    match ← nextKey first cs with
    | none =>
      match s.missing? seen with
      | some name => throw (.missingField name)
      | none => return (r, ← endObject cs)
    | some cs' =>
      let (key, rest) ← readString cs'
      let (r', seen', rest') ← s.readMember key seen r rest
      s.membersFor false seen' r' rest' n

/-- Reads a record. -/
def Schema.read {ρ : Type} (s : Schema ρ) : Reader ρ := fun cs => do
  match ← readFront cs with
  | (.array, rest) => s.readElements rest
  | (.object, rest) => s.membersFor true [] s.blank rest (rest.length + 1)
  | (f, _) => throw (.wrongKind f ("struct " ++ s.name))

end Turnstile.Json
