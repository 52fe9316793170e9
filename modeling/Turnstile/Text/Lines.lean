/-
# The lines of a text

A line ends with a line feed, before which a carriage return may stand; the end of a text
ends its last line too.
-/
import Turnstile.Text.Pieces

namespace Turnstile.Text

/-- A line without the carriage return at its end. -/
def withoutReturn (line : List Char) : List Char :=
  if line.getLast? = some '\r' then line.dropLast else line

/-- The lines of a list of letters: every line feed ends one, and so does the end, unless
nothing stands between the last line feed and it. -/
def lineList (cs : List Char) : List (List Char) :=
  let all := pieces (· == '\n') cs
  let ended := all.dropLast.map withoutReturn
  match all.getLast? with
  | none | some [] => ended
  | some last => ended ++ [last]

/-- The lines of a text. -/
def lines (s : String) : List String := (lineList s.toList).map String.ofList

end Turnstile.Text
