/-! A tree of files, and what a path leads to in it. With a tree at hand a
command can be run on data alone. -/
namespace RecordForms

inductive InputError where
  | notFound
  | notDirectory
  | isDirectory
  | nameTooLong
  | notText
  | other (cause : String)
deriving DecidableEq

def InputError.message : InputError → String
  | .notFound => "No such file or directory (os error 2)"
  | .notDirectory => "Not a directory (os error 20)"
  | .isDirectory => "Is a directory (os error 21)"
  | .nameTooLong => "File name too long (os error 36)"
  | .notText => "stream did not contain valid UTF-8"
  | .other cause => cause

inductive Entry where
  | file (text : String)
  | directory (entries : List (String × Entry))

structure FileTree where
  root : Entry
  /-- The names from the root down to the directory where relative paths start. -/
  workingDirectory : List String

namespace FileTree

def nameLimit : Nat := 255

def pathLimit : Nat := 4096

/-- Follows names from an entry, one after the other, with the directories above it from the
nearest to the root. The first name that cannot be followed decides the error, so a name that is
too long does no harm behind one that is missing. An empty name asks for a directory only, which
is why a file refuses a slash at the end of its path. -/
def follow (above : List Entry) (here : Entry) : List String → Except InputError Entry
  | [] => .ok here
  | name :: rest =>
    match here with
    | .file _ => .error .notDirectory
    | .directory entries =>
      if name = "" ∨ name = "." then follow above here rest
      else if name = ".." then
        match above with
        | [] => follow [] here rest
        | parent :: above => follow above parent rest
      else if nameLimit < name.utf8ByteSize then .error .nameTooLong
      else
        match entries.lookup name with
        | none => .error .notFound
        | some entry => follow (here :: above) entry rest

def names (path : String) : List String :=
  (path.toList.splitOn '/').map String.ofList

def find (tree : FileTree) (path : String) : Except InputError Entry :=
  if path = "" then .error .notFound
  else if pathLimit ≤ path.utf8ByteSize then .error .nameTooLong
  else if (names path).head? = some "" then follow [] tree.root (names path)
  else follow [] tree.root (tree.workingDirectory ++ names path)

def read (tree : FileTree) (path : String) : Except InputError String :=
  match tree.find path with
  | .error cause => .error cause
  | .ok (.directory _) => .error .isDirectory
  | .ok (.file text) => .ok text

/-- A system with no files of its own: the devices, where the standard input can be read under
each of its names, and an empty working directory. -/
def bare (input : String) : FileTree where
  root := .directory [
    ("dev", .directory [
      ("null", .file ""),
      ("stdin", .file input),
      ("fd", .directory [("0", .file input)])]),
    ("proc", .directory [
      ("self", .directory [("fd", .directory [("0", .file input)])])]),
    ("tmp", .directory [])]
  workingDirectory := ["tmp"]

end FileTree

end RecordForms
