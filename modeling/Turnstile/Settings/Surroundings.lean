/-
# The surroundings of a program

What a program finds when it starts: environment variables and files.  The value of a
variable is a sequence of bytes; as far as the settings are concerned a variable whose value
is no UTF-8 text is not set.  A zero byte would end a value, and no variable is set to a text
that holds one.

An environment is a list of entries `NAME=value`, and looking a name up means to look for what
follows the name and an equals sign in an entry.  A name that holds an equals sign itself
hence reaches into the value of a variable.
-/
import Turnstile.Register
import Turnstile.Settings.Files

namespace Turnstile

/-- Environment variables and files. -/
structure Surroundings where
  environment : Register String ByteArray := {}
  /-- The bytes of the file at a path. -/
  read : String → Except FileFault ByteArray := fun _ => .error .notFound

namespace Surroundings

/-- The surroundings with the given variables and files. -/
def ofLists (environment files : List (String × ByteArray)) : Surroundings where
  environment := Register.ofList environment
  read := (Files.ofList files).read

/-- The bytes that follow a name and an equals sign in an entry of the environment. -/
def bytesOf? (s : Surroundings) (name : String) : Option ByteArray :=
  match Text.cutAt (· == '=') name.toList with
  | none => s.environment.get? name
  | some (first, rest) =>
    let front := (String.ofList rest ++ "=").toUTF8.toList
    (s.environment.get? (String.ofList first)).bind fun value =>
      if front.isPrefixOf value.toList then some ⟨(value.toList.drop front.length).toArray⟩
      else none

/-- The value of a variable that is set to a text. -/
def valueOf? (s : Surroundings) (name : String) : Option String :=
  (s.bytesOf? name).bind String.fromUTF8?

/-- The surroundings with a variable set to a text, if it can be set to that. -/
def setVariable? (s : Surroundings) (name value : String) : Option Surroundings :=
  if value.toList.contains '\x00' then none
  else some { s with environment := s.environment.insert name value.toUTF8 }

/-- The file at a path as a text. -/
def readText (s : Surroundings) (path : String) : Except FileFault String := do
  let bytes ← s.read path
  match String.fromUTF8? bytes with
  | some t => return t
  | none => throw .notText

end Surroundings

end Turnstile
