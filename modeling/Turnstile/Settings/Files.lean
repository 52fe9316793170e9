/-
# Files below the working directory

A program finds its files by paths.  Here the files are those of one directory, which is the
working directory, known by their paths from it; a directory is there as soon as a file is
in it.  A path is walked from left to right: every part of it that another one follows must
name a directory.

Paths that lead out of the working directory meet the usual directories of a machine, a few
of its files and nothing else.
-/
import Turnstile.Text.Bytes
import Turnstile.Text.Pieces

namespace Turnstile

/-- Why a file cannot be read as a text. -/
inductive FileFault where
  | notFound
  /-- A part of the path that another one follows is a file. -/
  | notDirectory
  | isDirectory
  | nameTooLong
  /-- The bytes are no UTF-8 text. -/
  | notText
  /-- The system gave another reason. -/
  | other (what : String)
deriving DecidableEq, Repr

/-- The message of a fault. -/
def FileFault.message : FileFault → String
  | notFound => "No such file or directory (os error 2)"
  | notDirectory => "Not a directory (os error 20)"
  | isDirectory => "Is a directory (os error 21)"
  | nameTooLong => "File name too long (os error 36)"
  | notText => "stream did not contain valid UTF-8"
  | other what => what

/-- The files below the working directory. -/
structure Files where
  /-- Every file with the parts of its path and its bytes. -/
  entries : List (List String × ByteArray) := []

namespace Files

/-- The parts of a path between its slashes. -/
def parts (path : String) : List String :=
  (Text.pieces (· == '/') path.toList).map String.ofList

/-- The files at the given paths. -/
def ofList (fs : List (String × ByteArray)) : Files :=
  ⟨fs.map fun f => (parts f.1, f.2)⟩

/-- A place that a path leads to. -/
inductive Place where
  /-- A directory, by the parts of its path from the working directory. -/
  | directory (path : List String)
  | file (content : ByteArray)
  /-- A directory outside the working directory, by the parts of its path from the root. -/
  | outside (path : List String)

/-- The directories of a machine that a path can name from outside. -/
def usualDirectories : List (List String) :=
  [[], ["bin"], ["dev"], ["etc"], ["home"], ["lib"], ["opt"], ["proc"], ["root"], ["run"],
   ["sbin"], ["sys"], ["tmp"], ["usr"], ["var"], ["usr", "bin"], ["usr", "lib"],
   ["usr", "local"], ["usr", "share"], ["var", "log"], ["var", "tmp"]]

/-- The files of a machine that a path can name from outside, as far as anything is known of
what they hold. -/
def usualFiles : List (List String × String) :=
  [(["dev", "null"], ""), (["etc", "passwd"], "root:x:0:0:root:/root:/bin/bash\n"),
   (["etc", "group"], "root:x:0:\n")]

/-- The greatest number of bytes in a part of a path. -/
def maxPartLength : Nat := 255

/-- The greatest number of bytes in a path. -/
def maxPathLength : Nat := 4095

/-- Where a name leads to from a directory below the working directory. -/
def child (fs : Files) (path : List String) : Except FileFault Place :=
  match fs.entries.find? fun e => e.1 == path with
  | some e => .ok (.file e.2)
  | none =>
    if fs.entries.any fun e => path.isPrefixOf e.1 then .ok (.directory path) else .error .notFound

/-- Where a name leads to from a directory outside. -/
def outsideChild (path : List String) : Except FileFault Place :=
  if usualDirectories.contains path then .ok (.outside path)
  else
    match usualFiles.lookup path with
    | some content => .ok (.file content.toUTF8)
    | none => .error .notFound

/-- Follows one part of a path from a place. -/
def follow (fs : Files) (place : Place) (part : String) : Except FileFault Place :=
  match place with
  | .file _ => .error .notDirectory
  | .directory path =>
    if part = "" ∨ part = "." then .ok place
    else if part = ".." then
      .ok (if path.isEmpty then .outside ["tmp"] else .directory path.dropLast)
    else if maxPartLength < Text.byteLength part.toList then .error .nameTooLong
    else fs.child (path ++ [part])
  | .outside path =>
    if part = "" ∨ part = "." then .ok place
    else if part = ".." then .ok (.outside path.dropLast)
    else if maxPartLength < Text.byteLength part.toList then .error .nameTooLong
    else outsideChild (path ++ [part])

/-- The place that a path leads to.  A path that begins with a slash starts at the root. -/
def locate (fs : Files) (path : String) : Except FileFault Place :=
  if maxPathLength < Text.byteLength path.toList then .error .nameTooLong
  else
    match parts path with
    | [] | [""] => .error .notFound
    | "" :: rest => rest.foldlM (follow fs) (.outside [])
    | all => all.foldlM (follow fs) (.directory [])

/-- The bytes of the file at a path. -/
def read (fs : Files) (path : String) : Except FileFault ByteArray :=
  match fs.locate path with
  | .ok (.file content) => .ok content
  | .ok _ => .error .isDirectory
  | .error f => .error f

end Files

end Turnstile
