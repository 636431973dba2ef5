import DeckPlan.Fault

/-!
# Files by name

The files of the working folder, named by paths relative to it. The folders on the way to a file
exist with it. Paths are compared part by part: empty parts and `.` do not count, and `..` leads
out of a folder that is there. Outside of the working folder nothing is known but the folders
above it.

A part of a path names a file or a folder only if it is not too long, which shows when the folder
is there that it is looked up in (`lookUp`). A path that is too long as a whole leads nowhere.
-/

namespace DeckPlan

/-- The parts of a path that count. -/
def pathParts (path : String) : List String :=
  ((path.toList.splitOn '/').map String.ofList).filter fun part => part != "" && part != "."

/-- Whether a path begins at the root of all files, outside of the working folder. -/
def isAbsolute (path : String) : Bool :=
  path.toList.head? = some '/'

/-- What stands before the first part of a path: nothing, or the root, where two slashes differ
from one and from more. -/
def pathRoot (path : String) : String :=
  match (path.toList.takeWhile (· = '/')).length with
  | 0 => ""
  | 2 => "//"
  | _ => "/"

/-- A path without what does not count. -/
def plainPath (path : String) : String :=
  let plain := pathRoot path ++ "/".intercalate (pathParts path)
  if plain.isEmpty then "." else plain

/-- The greatest length of the name of a file or a folder, in bytes. -/
def maxNameSize : Nat := 255

/-- The greatest length of a path, in bytes. -/
def maxPathSize : Nat := 4095

/-- The files of the working folder with their contents. -/
structure FileTree where
  entries : List (List String × String) := []

namespace FileTree

/-- The tree of empty files with the given paths. -/
def ofPaths (paths : List String) : FileTree :=
  { entries := paths.map fun path => (pathParts path, "") }

/-- The content of a file. -/
def content? (tree : FileTree) (path : String) : Option String :=
  tree.entries.lookup (pathParts path)

/-- Gives a file a content. -/
def write (tree : FileTree) (path content : String) : FileTree :=
  let parts := pathParts path
  { entries := (parts, content) :: tree.entries.filter fun entry => entry.1 != parts }

/-- Whether the parts lead to a folder. -/
def isFolder (tree : FileTree) (parts : List String) : Bool :=
  parts.isEmpty ||
    tree.entries.any fun entry => parts.isPrefixOf entry.1 && parts.length < entry.1.length

/-- Whether the parts lead to a file. -/
def isFile (tree : FileTree) (parts : List String) : Bool :=
  tree.entries.any fun entry => entry.1 == parts

/-- Whether there is what the parts name, looked up from a folder above the working folder;
nothing is told if a name is too long. -/
def lookUpAbove : List String → Option Bool
  | [] => some true
  | part :: rest =>
    if part = ".." then lookUpAbove rest
    else if part.utf8ByteSize > maxNameSize then none
    else some false

/-- Whether there is what the parts name, looked up from a folder that is there; nothing is told
if a name is too long. -/
def lookUp (tree : FileTree) (folder : List String) : List String → Option Bool
  | [] => some true
  | part :: rest =>
    if part = ".." then
      if folder.isEmpty then lookUpAbove rest else lookUp tree folder.dropLast rest
    else if part.utf8ByteSize > maxNameSize then none
    else
      -- Nothing is looked up below a file or below what is not there, not even a name too long.
      let next := folder ++ [part]
      if isFolder tree next then lookUp tree next rest
      else some (rest.isEmpty && isFile tree next)

/-- Whether there is a file or a folder with the path. -/
def has (tree : FileTree) (path : String) : Except Fault Bool :=
  let plain := plainPath path
  let found :=
    if plain.utf8ByteSize > maxPathSize then none
    else if isAbsolute path then lookUpAbove (pathParts path)
    else lookUp tree [] (pathParts path)
  match found with
  | some found => .ok found
  | none => .error (.nameTooLong plain)

end FileTree

end DeckPlan
