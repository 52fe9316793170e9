/-
# Quoted texts

A text is quoted between double quotes.  A quote or backslash inside gets a backslash in
front, the usual control characters have their letter, and every other character that is
not visible on its own is written as its code point in hexadecimal between braces.
-/
import Turnstile.Text.Hex
import Turnstile.Text.Visible

namespace Turnstile.Text

/-- How one character is written inside quotes. -/
def quotedChar (c : Char) : List Char :=
  if c = '"' then ['\\', '"']
  else if c = '\\' then ['\\', '\\']
  else if c = '\n' then ['\\', 'n']
  else if c = '\r' then ['\\', 'r']
  else if c = '\t' then ['\\', 't']
  else if c = '\x00' then ['\\', '0']
  else if isVisible c then [c]
  else ['\\', 'u', '\x7b'] ++ hexDigits c.toNat ++ ['\x7d']

/-- A text between double quotes. -/
def quoted (s : String) : String :=
  String.ofList ('"' :: (s.toList.flatMap quotedChar ++ ['"']))

end Turnstile.Text
