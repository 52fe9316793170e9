/-
# Files of environment variables

A line of such a file gives a variable a value, as in `NAME=value`, maybe after the word
`export`.  A `#` at the beginning of a line, or after a blank behind the value, begins a
comment.  Values may be quoted.  Between single quotes every letter stands for itself;
elsewhere a backslash escapes the next letter and `$NAME` or `${NAME}` stands for the value
of a variable, where a name without braces goes on as far as letters and numbers do.

The first faulty line ends the file.  A variable that is set already keeps its value.
-/
import Turnstile.Settings.Surroundings
import Turnstile.Text.Alphanumeric
import Turnstile.Text.Blank

namespace Turnstile.EnvFile

/-! ## Values -/

/-- What a letter of a value belongs to. -/
inductive Mode where
  /-- Unquoted text. -/
  | plain
  /-- Text between double quotes. -/
  | quoted
  /-- Text between single quotes. -/
  | literal
  /-- The name of a variable after a dollar sign, in reverse, outside or inside of double
  quotes. -/
  | name (letters : List Char) (inQuotes : Bool)
  /-- The name of a variable after a dollar sign and a brace, in reverse. -/
  | braced (letters : List Char) (inQuotes : Bool)
  /-- The letter after a backslash, outside or inside of double quotes. -/
  | escaped (inQuotes : Bool)
  /-- The blanks after the value. -/
  | done
deriving DecidableEq, Repr

/-- The mode outside of names and escapes. -/
def Mode.base (inQuotes : Bool) : Mode := if inQuotes then .quoted else .plain

/-- The letter that an escape stands for. -/
def unescape? (c : Char) : Option Char :=
  if ['\\', '\'', '"', '$', ' '].contains c then some c
  else if c = 'n' then some '\n'
  else none

/-- The value of a variable whose name is given in reverse. -/
def valueOf (look : String → String) (letters : List Char) : List Char :=
  (look (String.ofList letters.reverse)).toList

/-- How a plain or quoted letter goes on: the letters it adds and the mode after it. -/
def takeText (inQuotes : Bool) (c : Char) : List Char × Mode :=
  if c = '$' then ([], .name [] inQuotes)
  else if c = '"' then ([], Mode.base !inQuotes)
  else if c = '\\' then ([], .escaped inQuotes)
  else if inQuotes then ([c], .quoted)
  else if c = '\'' then ([], .literal)
  else if c = ' ' ∨ c = '\t' then ([], .done)
  else ([c], .plain)

/-- How a letter after a dollar sign goes on. -/
def takeName (look : String → String) (letters : List Char) (inQuotes : Bool) (c : Char) :
    List Char × Mode :=
  if Text.isAlphanumeric c then ([], .name (c :: letters) inQuotes)
  else if c = '\x7b' ∧ letters = [] then ([], .braced [] inQuotes)
  else if c = '$' then (valueOf look letters, .name [] inQuotes)
  else (valueOf look letters ++ [c], Mode.base inQuotes)

/-- How one letter of a value goes on: the letters it adds and the mode after it, or nothing
if it may not stand there. -/
def take? (look : String → String) (c : Char) : Mode → Option (List Char × Mode)
  | .plain => some (takeText false c)
  | .quoted => some (takeText true c)
  | .literal => some (if c = '\'' then ([], .plain) else ([c], .literal))
  | .name letters inQuotes => some (takeName look letters inQuotes c)
  | .braced letters inQuotes =>
    some (if c = '\x7d' then (valueOf look letters, Mode.base inQuotes)
      else ([], .braced (c :: letters) inQuotes))
  | .escaped inQuotes => (unescape? c).map fun e => ([e], Mode.base inQuotes)
  | .done => if c = ' ' ∨ c = '\t' then some ([], .done) else none

/-- What a value comes to when it ends in a mode, or nothing if it may not end there. -/
def finish? (look : String → String) : Mode → Option (List Char)
  | .plain | .done | .escaped false => some []
  | .name letters false => some (valueOf look letters)
  | _ => none

/-- Reads a value from a mode on. -/
def value? (look : String → String) : Mode → List Char → Option (List Char)
  | m, [] => finish? look m
  | m, c :: cs =>
    if m = .done ∧ c = '#' then some []
    else do
      let (added, m') ← take? look c m
      return added ++ (← value? look m' cs)

/-! ## Lines -/

/-- Whether a letter can begin the name of a variable. -/
def beginsName (c : Char) : Bool := c.isAlpha || c == '_'

/-- Whether a letter can stand in the name of a variable. -/
def isInName (c : Char) : Bool := c.isAlphanum || c == '_' || c == '.'

/-- A name at the front of a line, and the rest without blanks before it. -/
def name? (cs : List Char) : Option (String × List Char) :=
  match cs with
  | c :: _ =>
    if beginsName c then
      some (String.ofList (cs.takeWhile isInName), (cs.dropWhile isInName).dropWhile Text.isBlank)
    else none
  | [] => none

/-- The rest of a line after its equals sign, without blanks before it. -/
def afterEquals? : List Char → Option (List Char)
  | '=' :: cs => some (cs.dropWhile Text.isBlank)
  | _ => none

/-- The name and the unread value of a line; `export` is a name like any other if an equals
sign follows it. -/
def assignment? (cs : List Char) : Option (String × List Char) := do
  let (name, rest) ← name? cs
  match afterEquals? rest with
  | some value => return (name, value)
  | none =>
    if name = "export" then
      let (name, rest) ← name? rest
      return (name, ← afterEquals? rest)
    else none

/-- Whether nothing but maybe a comment follows. -/
def isVacant : List Char → Bool
  | [] => true
  | c :: _ => c == '#'

/-- What a line says. -/
inductive Line where
  /-- It is empty or a comment. -/
  | vacant
  /-- It gives a variable a value. -/
  | sets (name value : String)
  | faulty
deriving DecidableEq, Repr

/-- Reads a line, with a function that looks variables up. -/
def Line.ofList (look : String → String) (line : List Char) : Line :=
  let cs := Text.trimList line
  if isVacant cs then .vacant
  else
    match assignment? cs with
    | none => .faulty
    | some (name, unread) =>
      if isVacant unread then .sets name ""
      else
        match value? look .plain unread with
        | some v => .sets name (String.ofList v)
        | none => .faulty

/-! ## Files -/

/-- The lines of a file, up to the first one that is no text. -/
def linesOf (bytes : List UInt8) : List (List Char) :=
  go [] bytes
where
  /-- Collects the bytes of a line in reverse. -/
  go (line : List UInt8) : List UInt8 → List (List Char)
    | [] => (decode line).toList
    | b :: bs =>
      if b = 10 then
        match decode line with
        | some l => l :: go [] bs
        | none => []
      else go (b :: line) bs
  /-- The letters of a line in reverse. -/
  decode (line : List UInt8) : Option (List Char) :=
    (String.fromUTF8? ⟨line.reverse.toArray⟩).map String.toList

/-- Sets the variables of lines one after the other, as far as they are not set yet, if they
can be set to their values. -/
def setAll? (s : Surroundings) : List (List Char) → Option Surroundings
  | [] => some s
  | line :: lines =>
    match Line.ofList (fun name => (s.valueOf? name).getD "") line with
    | .vacant => setAll? s lines
    | .faulty => some s
    | .sets name value =>
      if (s.valueOf? name).isSome then setAll? s lines
      else (s.setVariable? name value).bind fun s => setAll? s lines

end EnvFile

/-- The path of the file of environment variables. -/
def EnvFile.path : String := ".env"

/-- The surroundings with the variables that their file of environment variables sets, if
they can be set. -/
def Surroundings.withEnvFile? (s : Surroundings) : Option Surroundings :=
  match s.read EnvFile.path with
  | .ok bytes => EnvFile.setAll? s (EnvFile.linesOf bytes.toList)
  | .error _ => some s

end Turnstile
