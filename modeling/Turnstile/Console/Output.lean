/-
# What a program writes to its console

The output of a program is a sequence of lines, tables and log events.  This file says how
each of them is written.
-/
import Turnstile.Console.LogFilter
import Turnstile.Text.Lines

namespace Turnstile

/-- A table with a row of titles. -/
structure Table where
  titles : List String
  rows : List (List String)
deriving DecidableEq, Repr

/-- A piece of output. -/
inductive Output where
  | line (s : String)
  | table (t : Table)
  | log (e : Event)
deriving DecidableEq, Repr

/-- How a run of a program ended: with an error or without, and with which exit code. -/
structure Ending where
  failure : Option String := none
  exitCode : Nat := 0
deriving DecidableEq, Repr

/-- An ending with an error. -/
def Ending.failed (failure : String) : Ending := ⟨some failure, 1⟩

/-- An ending in the middle of the work, which cannot be gone on with. -/
def Ending.aborted : Ending := ⟨none, 101⟩

/-- What a run of a program leaves behind. -/
structure Report extends Ending where
  output : List Output := []
deriving DecidableEq, Repr

/-- A report of a run that ended with an error. -/
def Report.failed (output : List Output) (failure : String) : Report :=
  { toEnding := .failed failure, output := output }

/-- A report of a run that ended in the middle of the work. -/
def Report.aborted (output : List Output) : Report :=
  { toEnding := .aborted, output := output }

/-- The events that pass a filter, as output. -/
def LogFilter.outputOf (f : LogFilter) (es : List Event) : List Output :=
  (es.filter f.allows).map Output.log

/-! ## Log lines -/

/-- The text of a field value in a log line. -/
def FieldValue.lineText : FieldValue → String
  | .text s => Text.quoted s
  | .shown s => s
  | .number n => toString n
  | .flag b => if b then "true" else "false"

/-- The line of an event: level, target, message and fields. -/
def Event.line (e : Event) : String :=
  e.fields.foldl (fun s f => s ++ " " ++ f.1 ++ "=" ++ f.2.lineText)
    (e.level.name ++ " " ++ e.source.target ++ ": " ++ e.message)

/-! ## Tables -/

namespace Table

/-- A row as it is written: on as many lines as its highest cell has, the cells one line of
text at a time. -/
def rowCells (row : List String) : List (List String) :=
  let cells := row.map Text.lines
  let height := (cells.map List.length).foldl max 1
  (List.range height).map fun i => cells.map fun ls => ls[i]?.getD ""

/-- The rows as they are written, line by line. -/
def cells (t : Table) : List (List String) := t.rows.flatMap rowCells

/-- The width of every column: that of its widest cell. -/
def widths (t : Table) : List Nat :=
  t.cells.foldl
    (fun ws row => ws.zipWith (fun w cell => max w cell.length) row)
    (t.titles.map String.length)

/-- A row between bars, every cell filled up to the width of its column. -/
def rowLine (widths : List Nat) (row : List String) : String :=
  (row.zip widths).foldl
    (fun s p => s ++ " " ++ p.1 ++ String.ofList (List.replicate (p.2 - p.1.length + 1) ' ') ++ "|")
    "|"

/-- A rule of one letter across all columns. -/
def ruleLine (c : Char) (widths : List Nat) : String :=
  widths.foldl (fun s w => s ++ String.ofList (List.replicate (w + 2) c) ++ "+") "+"

/-- The lines of a table: rules around every row, a double one below the titles. -/
def lines (t : Table) : List String :=
  let ws := t.widths
  [ruleLine '-' ws, rowLine ws t.titles, ruleLine '=' ws] ++
    t.rows.flatMap fun row => (rowCells row).map (rowLine ws) ++ [ruleLine '-' ws]

end Table

/-- The lines of a piece of output.  An empty line is a line too. -/
def Output.lines : Output → List String
  | line s => textLines s
  | table t => t.lines
  | log e => textLines e.line
where
  /-- The lines of a text with a line feed behind it. -/
  textLines (s : String) : List String := Text.lines (s ++ "\n")

end Turnstile
