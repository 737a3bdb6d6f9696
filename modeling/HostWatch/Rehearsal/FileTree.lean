import HostWatch.Host.File
import HostWatch.Text.Blank
set_option autoImplicit false

/-!
# Rehearsal: a file tree

Files to read in a rehearsal, each under the names of the directories that lead to it.
A path is followed name by name: a point stays where it is and two points lead one
directory up, and all of this only in a directory.  A slash at the end of a path asks for
a directory too.
-/

namespace HostWatch.Rehearsal

open HostWatch.Text

/-- What is at a place of the tree. -/
inductive FileNode where
  | file (bytes : List UInt8)
  | directory
  deriving DecidableEq, Repr, Inhabited

/-- Files, and directories that may be empty, by their names from the root on. -/
structure FileTree where
  files : List (List String × List UInt8)
  directories : List (List String)
  deriving Inhabited

namespace FileTree

/-- How many bytes a name has at most. -/
def nameLimit : Nat := 255

/-- How many bytes a path has at most. -/
def pathLimit : Nat := 4095

/-- What is at a place. -/
def node? (t : FileTree) (place : List String) : Option FileNode :=
  match t.files.lookup place with
  | some bytes => some (.file bytes)
  | none =>
    if place.isEmpty || (t.files.map (·.1) ++ t.directories).any place.isPrefixOf then
      some .directory
    else none

/-- Follows names from a place on. -/
def walk (t : FileTree) (place : List String) : List String → Except FileFault (List String)
  | [] => .ok place
  | name :: rest =>
    if t.node? place = some .directory then
      if name = "" ∨ name = "." then walk t place rest
      else if name = ".." then walk t place.dropLast rest
      else if nameLimit < name.utf8ByteSize then .error .nameTooLong
      else if (t.node? (place ++ [name])).isNone then .error .notFound
      else walk t (place ++ [name]) rest
    else .error .notDirectory

/-- Reads the file at a path, which begins at the root or else in the directory `here`. -/
def read (t : FileTree) (here : List String) (path : String) : FileReading := do
  if path.isEmpty then throw .notFound
  if pathLimit < path.utf8ByteSize then throw .nameTooLong
  let names := (splitAt '/' path.toList).map String.ofList
  let place ← t.walk (if startsWith path "/" then [] else here) names
  match t.node? place with
  | some (.file bytes) => return bytes
  | some .directory => throw .isDirectory
  | none => throw .notFound

end FileTree

end HostWatch.Rehearsal
