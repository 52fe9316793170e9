/-
# How deep an expression is nested

Every part of a regular expression has a height: nothing for what has no parts, otherwise one
more than its highest part.  Parts in a row count as a whole of their own only if there are
at least two of them.
-/

namespace Turnstile.Text.Regular

/-- The greatest of some heights. -/
def highest (hs : List Nat) : Nat := hs.foldl max 0

/-- The height of what holds parts in a row. -/
def heightOf : List Nat → Nat
  | [] => 0
  | [h] => h
  | hs => highest hs + 1

/-- The greatest height of an expression. -/
def greatestHeight : Nat := 250

end Turnstile.Text.Regular
