/-
# Row keys

A row key is a 128-bit UUID.  It is written as five groups of lower-case hexadecimal
digits; it is read in that form with digits of either case, and also without hyphens,
between braces, or after the prefix `urn:uuid:`.  A text in none of these forms has a
fault, and which one is decided in a fixed order: a text longer than every form first, then
a foreign character, then the number of groups, then their lengths.
-/
import Turnstile.Text.Bytes
import Turnstile.Text.Hex
import Turnstile.Text.Name

namespace Turnstile

open Text

/-- A 128-bit key. -/
structure Uuid where
  /-- The key as a number, its first digit the most significant. -/
  value : Nat
deriving DecidableEq, Repr

namespace Uuid

/-- Why a text is not a key. -/
inductive Fault where
  /-- A character that no form has, and how many bytes stand before it. -/
  | character (c : Char) (place : Nat)
  /-- More bytes than any form has, or digits alone, but not 32 of them. -/
  | length (found : Nat)
  /-- Not five groups. -/
  | groupCount (found : Nat)
  /-- A group of the wrong length. -/
  | groupLength (group expected found : Nat)
deriving DecidableEq, Repr

/-- The message of a fault. -/
def Fault.message : Fault → String
  | .character c place => s!"invalid character: found `{c}` at {place}"
  | .length found => s!"invalid length: found {found}"
  | .groupCount found => s!"invalid group count: expected 5, found {found}"
  | .groupLength group expected found =>
    s!"invalid group length in group {group}: expected {expected}, found {found}"

/-- The random key (version 4, variant 1) with the other 122 bits taken from a number. -/
def ofRandom (n : Nat) : Uuid :=
  let low := n % (1 <<< 62)
  let middle := (n >>> 62) % (1 <<< 12)
  let high := (n >>> 74) % (1 <<< 48)
  ⟨high <<< 80 + 4 <<< 76 + middle <<< 64 + 2 <<< 62 + low⟩

/-- The written form: five groups with hyphens between them. -/
def toText (u : Uuid) : String :=
  let ds := lastHexDigits 32 u.value
  String.ofList (ds.take 8 ++ '-' :: (ds.drop 8).take 4 ++ '-' :: (ds.drop 12).take 4 ++
    '-' :: (ds.drop 16).take 4 ++ '-' :: ds.drop 20)

/-- Reads five hyphenated groups of the right lengths. -/
def readGroups? (cs : List Char) : Option Uuid :=
  if cs.length = 36 ∧ [8, 13, 18, 23].all (fun i => cs[i]? == some '-') then
    (hexValue? (cs.filter (· ≠ '-'))).bind fun v =>
      if (cs.filter (· = '-')).length = 4 then some ⟨v⟩ else none
  else none

/-- The mark that may stand before a key, in letters of either case. -/
def urnMark : List Char := "urn:uuid:".toList

/-- The bytes of the longest form: the mark and five groups with their hyphens. -/
def greatestLength : Nat := urnMark.length + 36

/-- Takes the braces or the mark off a text: the rest, how much stood before it, and
whether neither was there. -/
def unwrap (cs : List Char) : List Char × Nat × Bool :=
  let bare := (cs, 0, true)
  match cs with
  | '\x7b' :: rest => if rest.getLast? = some '\x7d' then (rest.dropLast, 1, false) else bare
  | _ =>
    if folded (cs.take urnMark.length) = urnMark then
      (cs.drop urnMark.length, urnMark.length, false)
    else bare

/-- A text as it is read: the part that spells the key, and how its faults are told. -/
structure Body where
  /-- The digits and hyphens. -/
  letters : List Char
  /-- The bytes that stand before them, where faults count these too. -/
  offset : Nat
  /-- Whether digits alone have a length at fault, not a number of groups. -/
  plain : Bool

/-- The body of a text.  A text of the length of a form is taken to be in that form, and the
place of its faults is counted from the start of the body; of any other length, from the
start of the text. -/
def Body.ofText (cs : List Char) : Body :=
  let (inner, offset, bare) := unwrap cs
  if byteLength cs = 32 then ⟨cs, 0, true⟩
  else if byteLength cs = 36 then ⟨cs, 0, false⟩
  else if !bare && byteLength inner = 36 then ⟨inner, 0, false⟩
  else ⟨inner, offset, bare⟩

/-- The first character that is neither a hexadecimal digit nor a hyphen, and the byte
offset where it stands. -/
def foreign? (offset : Nat) : List Char → Option (Char × Nat)
  | [] => none
  | c :: cs =>
    if c = '-' || (hexDigit? c).isSome then foreign? (offset + c.utf8Size) cs else some (c, offset)

/-- The places of the hyphens of a text. -/
def hyphens (cs : List Char) : List Nat :=
  (cs.zipIdx.filter fun p => p.1 = '-').map Prod.snd

/-- The first of the leading groups that ends at the wrong place. -/
def misplaced? (group : Nat) : List (Nat × Nat × Nat) → Option Fault
  | [] => none
  | (place, start, expected) :: rest =>
    if place = start + expected then misplaced? (group + 1) rest
    else some (.groupLength group expected (place - start))

/-- What is wrong with a text that is not a key. -/
def faultOf (cs : List Char) : Fault :=
  let size := byteLength cs
  if greatestLength < size then .length size
  else
    let body := Body.ofText cs
    match foreign? body.offset body.letters with
    | some (c, place) => .character c place
    | none =>
      let places := hyphens body.letters
      if places.isEmpty && body.plain then .length size
      else if places.length ≠ 4 then .groupCount (places.length + 1)
      else
        (misplaced? 0 (places.zip [(0, 8), (9, 4), (14, 4), (19, 4)])).getD
          (.groupLength 4 12 (size - 24))

/-- Reads a key. -/
def ofText (s : String) : Except Fault Uuid :=
  let cs := s.toList
  let body := Body.ofText cs
  let digits? := if cs.length = 32 then (hexValue? cs).map Uuid.mk else none
  match digits?.orElse fun _ => readGroups? body.letters with
  | some u => .ok u
  | none => .error (faultOf cs)

end Uuid

end Turnstile
