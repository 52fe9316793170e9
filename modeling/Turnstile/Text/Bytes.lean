/-
# Cutting texts by bytes

The letters of a text take one to four bytes each in UTF-8.  A text can be cut at a number of
bytes only if that lies between two letters.
-/

namespace Turnstile.Text

/-- The number of bytes that a text takes in UTF-8. -/
def byteLength (cs : List Char) : Nat := cs.foldr (fun c n => c.utf8Size + n) 0

/-- What stands before and after a number of bytes, unless a letter lies across the cut or
the text is shorter. -/
def splitAtByte? : Nat → List Char → Option (List Char × List Char)
  | 0, cs => some ([], cs)
  | _ + 1, [] => none
  | n + 1, c :: cs =>
    if c.utf8Size ≤ n + 1 then
      (splitAtByte? (n + 1 - c.utf8Size) cs).map fun p => (c :: p.1, p.2)
    else none

/-- The letters between two numbers of bytes. -/
def slice? (cs : List Char) (first last : Nat) : Option (List Char) := do
  let (_, rest) ← splitAtByte? first cs
  let (middle, _) ← splitAtByte? (last - first) rest
  return middle

/-- The letters after a number of bytes. -/
def sliceFrom? (cs : List Char) (first : Nat) : Option (List Char) :=
  (splitAtByte? first cs).map Prod.snd

end Turnstile.Text
