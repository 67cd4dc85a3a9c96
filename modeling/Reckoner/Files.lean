/-!
# Files

What a program learns when it opens a file, and a tree of files to open them from. A path is followed
one part after the other, so each part but the last has to be a directory. The tree is the current
directory; what lies beyond it is unknown, and so is every file in it.
-/
namespace Reckoner

/-- What opening a file gives. -/
inductive Opened where
  /-- There is no such file. -/
  | missing
  /-- There is something else, or the path leads nowhere. -/
  | unreadable
  /-- The path holds the NUL character, which no path may. -/
  | impossible
  /-- The bytes of the file. -/
  | bytes (content : List UInt8)
  deriving DecidableEq, Repr

namespace Path

/-- The parts of a path, as slashes separate them. -/
def parts (path : String) : List String :=
  (path.toList.splitOn '/').map String.ofList

/-- Whether a path starts at the root. -/
def isAbsolute (path : String) : Bool :=
  path.toList.head? = some '/'

/-- A path without the parts that lead nowhere. -/
def normalize (path : String) : String :=
  let kept := "/".intercalate ((parts path).filter fun part => part ≠ "" ∧ part ≠ ".")
  if isAbsolute path then "/" ++ kept else if kept = "" then "." else kept

end Path

/-- A directory and all that it holds; names are paths from it. -/
structure FileTree where
  /-- The directories, by the parts of their paths. -/
  directories : List (List String)
  /-- The files, by the parts of their paths, and their bytes. -/
  files : List (List String × List UInt8)

namespace FileTree

/-- Where a path leads. -/
inductive Place where
  /-- A directory of the tree. -/
  | directory (parts : List String)
  /-- A directory beyond the tree. -/
  | beyond
  /-- A file of the tree. -/
  | file (content : List UInt8)
  /-- Nothing. -/
  | nothing
  /-- No place at all: the path leads through a file, or one of its parts is too long. -/
  | nowhere

/-- The longest name of a file in bytes. -/
def nameLimit : Nat := 255

/-- The longest path in bytes. -/
def pathLimit : Nat := 4095

/-- What a directory of the tree holds under a name. -/
def child (t : FileTree) (parts : List String) (name : String) : Place :=
  let here := parts ++ [name]
  match t.files.find? (·.1 = here) with
  | some file => .file file.2
  | none =>
    if t.directories.any (here.isPrefixOf ·) || t.files.any (here.isPrefixOf ·.1) then
      .directory here
    else .nothing

/-- Goes on by one part of a path. -/
def enter (t : FileTree) (place : Place) (part : String) : Place :=
  match place with
  | .directory parts =>
    if part = "" ∨ part = "." then .directory parts
    else if part = ".." then if parts = [] then .beyond else .directory parts.dropLast
    else if nameLimit < part.utf8ByteSize then .nowhere
    else t.child parts part
  | .beyond =>
    if part = "" ∨ part = "." ∨ part = ".." then .beyond
    else if nameLimit < part.utf8ByteSize then .nowhere
    else .nothing
  | .file _ => .nowhere
  | .nothing => .nothing
  | .nowhere => .nowhere

/-- Opens the file of a path. -/
def open? (t : FileTree) (path : String) : Opened :=
  if path.toList.contains '\x00' then .impossible
  else if path = "" then .missing
  else if pathLimit < path.utf8ByteSize then .unreadable
  else
    let start := if Path.isAbsolute path then .beyond else .directory []
    match (Path.parts path).foldl t.enter start with
    | .file content => .bytes content
    | .nothing => .missing
    | _ => .unreadable

end FileTree
end Reckoner
