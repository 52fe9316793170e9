/-
# Command line arguments

A command line uses options by their long names, `--name value` or `--name=value`, or by
their letters, `-n value`, `-nvalue` or `-n=value`; letters of options without a value can
share one dash.  An argument that begins with a dash and does not end there is never the
value of the option before it.  `--` ends the options.

A list option takes its values from one argument, with commas between them and maybe one
behind them, or from several arguments in a row; a comma in an argument of its own, or an
equals sign, ends the row.

`scan` finds the uses of options up to the first argument that names a command.  What the
uses amount to is then asked for option by option.  It stops at the first argument that is
faulty, or that asks for the version with `--version` or `-V`.
-/
import Turnstile.Text.Pieces

namespace Turnstile

/-- What follows an option. -/
inductive Takes where
  /-- Nothing; the option may be repeated or not. -/
  | nothing (repeatable : Bool)
  /-- One value. -/
  | value
  /-- Values, in one use or several. -/
  | values
deriving DecidableEq, Repr

/-- An option of a command line. -/
structure CommandOption where
  name : String
  letter : Option Char := none
  takes : Takes := .value
  /-- The value that stands if none is given. -/
  fallback : Option String := none
deriving DecidableEq, Repr

/-- The uses of options on a command line. -/
structure Uses where
  /-- The name of an option for every use. -/
  names : List String := []
  /-- The values with the names of their options. -/
  values : List (String × String) := []
deriving DecidableEq, Repr

namespace Uses

/-- How often an option is used. -/
def count (u : Uses) (o : CommandOption) : Nat := u.names.count o.name

/-- The values given to an option. -/
def given (u : Uses) (o : CommandOption) : List String :=
  u.values.filterMap fun v => if v.1 = o.name then some v.2 else none

/-- The values of an option: those given, or else its fallback. -/
def valuesOf (u : Uses) (o : CommandOption) : List String :=
  match u.given o with
  | [] =>
    match o.fallback with
    | none => []
    | some v => separate o v
  | vs => vs
where
  /-- The values in one argument. -/
  separate (o : CommandOption) (v : String) : List String :=
    match o.takes with
    | .values => (listed (Text.pieces (· == ',') v.toList)).map String.ofList
    | _ => [v]
  /-- The values among the pieces between commas: nothing follows a comma at the end. -/
  listed (ps : List (List Char)) : List (List Char) :=
    if ps.getLast? = some [] ∧ 1 < ps.length then ps.dropLast else ps

/-- The value of an option, if it has one. -/
def valueOf? (u : Uses) (o : CommandOption) : Option String := (u.valuesOf o).head?

/-- The uses with one more value for an option, or several in one argument. -/
def addValue (u : Uses) (o : CommandOption) (v : String) : Uses :=
  { u with values := u.values ++ (valuesOf.separate o v).map fun w => (o.name, w) }

/-- The uses with one more use of an option. -/
def addUse (u : Uses) (o : CommandOption) : Uses := { u with names := u.names ++ [o.name] }

/-- Whether an option is used as often as it may be. -/
def isWithin (u : Uses) (o : CommandOption) : Bool :=
  match o.takes with
  | .nothing true | .values => true
  | _ => decide (u.count o ≤ 1)

end Uses

/-- Why a command line is not carried out. -/
inductive Stop where
  | faulty
  /-- It asks for the version, maybe behind a command. -/
  | version (command : Option String)
deriving DecidableEq, Repr

namespace Stop

/-- The version of all programs. -/
def programVersion : String := "0.1.0"

/-- The lines that a program writes before it stops. -/
def lines (program : String) : Stop → List String
  | faulty => []
  | version command =>
    [program ++ (command.map ("-" ++ ·)).getD "" ++ " " ++ programVersion]

/-- The exit code of a program that stops. -/
def exitCode : Stop → Nat
  | faulty => 1
  | version _ => 0

end Stop

/-- The uses so far, and the option that can take the next argument as a value. -/
structure Scan where
  uses : Uses := {}
  open? : Option CommandOption := none
deriving DecidableEq, Repr

namespace Scan

/-- Whether an option takes values. -/
def takesValue (o : CommandOption) : Bool :=
  match o.takes with
  | .nothing _ => false
  | _ => true

/-- Whether an option takes several values. -/
def takesMany (o : CommandOption) : Bool := o.takes == .values

/-- Letters without the equals signs at their front. -/
def afterEquals (v : List Char) : String := String.ofList (v.dropWhile (· == '='))

/-- Uses an option by its long name; `v` is what follows the first equals sign. -/
def useLong (s : Scan) (o : CommandOption) (v : Option (List Char)) : Scan :=
  let uses := s.uses.addUse o
  if takesValue o then
    match v with
    | some v => ⟨uses.addValue o (afterEquals v), none⟩
    | none => ⟨uses, some o⟩
  else ⟨uses, none⟩

/-- Uses an option with a value by its letter; `v` is what follows the letter. -/
def useLetter (s : Scan) (o : CommandOption) (v : List Char) : Scan :=
  let uses := s.uses.addUse o
  if v = [] then ⟨uses, some o⟩
  else ⟨uses.addValue o (afterEquals v), if takesMany o && v.head? ≠ some '=' then some o else none⟩

/-- Scans an argument that begins with two dashes. -/
def long (options : List CommandOption) (s : Scan) (arg : List Char) : Except Stop Scan :=
  let bare := arg.dropWhile (· == '-')
  let (name, v) :=
    match Text.cutAt (· == '=') bare with
    | some (name, v) => (name, some v)
    | none => (bare, none)
  match options.find? fun o => o.name.toList == name with
  | some o => .ok (s.useLong o v)
  | none => .error (if name = "version".toList then .version none else .faulty)

/-- Scans the letters after a single dash. -/
def letters (options : List CommandOption) (s : Scan) : List Char → Except Stop Scan
  | [] => .ok s
  | c :: cs =>
    match options.find? fun o => o.letter == some c with
    | none => .error (if c = 'V' then .version none else .faulty)
    | some o =>
      if takesValue o then .ok (s.useLetter o cs)
      else letters options ⟨s.uses.addUse o, none⟩ cs

/-- Gives an argument to the option that is open. -/
def value (s : Scan) (arg : String) : Except Stop Scan :=
  match s.open? with
  | none => .error .faulty
  | some o =>
    .ok ⟨s.uses.addValue o arg, if takesMany o && !arg.toList.contains ',' then some o else none⟩

/-- Scans one argument that neither names a command nor ends the options. -/
def argument (options : List CommandOption) (s : Scan) (arg : String) : Except Stop Scan :=
  match arg.toList with
  | '-' :: '-' :: cs => long options s ('-' :: '-' :: cs)
  | '-' :: c :: cs => letters options s (c :: cs)
  | _ => s.value arg

/-- Whether the uses are as they have to be: none too often, and none without a value that
needs one. -/
def isComplete (options : List CommandOption) (s : Scan) : Bool :=
  options.all fun o =>
    s.uses.isWithin o &&
      (!takesValue o || s.uses.count o == 0 || !(s.uses.valuesOf o).isEmpty)

end Scan

/-- What a command line holds up to a command: the uses of options, and the command with
the arguments after it, if there is one. -/
structure CommandLine where
  uses : Uses
  command : Option (String × List String)
deriving DecidableEq, Repr

namespace CommandLine

/-- The command line up to its end, unless the uses are faulty. -/
def close (options : List CommandOption) (s : Scan) (command : Option (String × List String)) :
    Except Stop CommandLine :=
  if s.isComplete options then .ok ⟨s.uses, command⟩ else .error .faulty

/-- Scans arguments from a state on. -/
def scanFrom (options : List CommandOption) (commands : List String) (s : Scan) :
    List String → Except Stop CommandLine
  | [] => close options s none
  | arg :: args =>
    if arg = "--" then if args.isEmpty then close options s none else .error .faulty
    else if s.open?.isNone && commands.contains arg then close options s (some (arg, args))
    else do scanFrom options commands (← s.argument options arg) args

/-- Scans arguments. -/
def scan (options : List CommandOption) (commands : List String) (args : List String) :
    Except Stop CommandLine :=
  scanFrom options commands {} args

end CommandLine

end Turnstile
