/-!
# Trees of files

A `FileTree` is a file or a directory with everything in it, and a `Location` names a place in it
from the root down. `FileTree.at?` looks a location up and `FileTree.place` puts another tree there,
or takes one away; a location whose directory is missing stays as it is. The first of several
entries with the same name is the one that counts, and changing an entry changes all of them. There
are no links and no permissions: an entry is a file or a directory, and all of them can be read and
changed.
-/

namespace Intake

/-- The names that lead from the root to a place. -/
abbrev Location := List String

/-- A file, or a directory with what is in it. -/
inductive FileTree where
  | file (content : ByteArray)
  | dir (entries : List (String × FileTree))
  deriving Inhabited

namespace FileTree

/-- Is it a directory? -/
def isDir : FileTree → Bool
  | file _ => false
  | dir _ => true

/-- The entries of a directory. -/
def entries : FileTree → List (String × FileTree)
  | file _ => []
  | dir entries => entries

/-- The tree at a location. -/
def at? : FileTree → Location → Option FileTree
  | n, [] => some n
  | file _, _ :: _ => none
  | dir entries, name :: rest => (entries.lookup name).bind fun n => n.at? rest

/-- The entries with one of them set, or taken away. -/
def setEntry (name : String) (n? : Option FileTree) (entries : List (String × FileTree)) :
    List (String × FileTree) :=
  let others := entries.filter fun e => e.1 != name
  match n? with
  | some n => others ++ [(name, n)]
  | none => others

/-- The tree with another one, or none, at a location below its root. -/
def place (n? : Option FileTree) : FileTree → Location → FileTree
  | n, [] => n
  | file content, _ :: _ => file content
  | dir entries, [name] => dir (setEntry name n? entries)
  | dir entries, name :: next :: rest =>
    dir (entries.map fun e => if e.1 = name then (e.1, place n? e.2 (next :: rest)) else e)

mutual

/-- All paths in a directory that begins with a text, directories with a slash at their end. -/
def listing (before : String) : FileTree → List String
  | file _ => []
  | dir entries => listingOf before entries

/-- All paths in a list of entries. -/
def listingOf (before : String) : List (String × FileTree) → List String
  | [] => []
  | (name, n) :: rest =>
    let path := before ++ name ++ if n.isDir then "/" else ""
    path :: listing path n ++ listingOf before rest

end

end FileTree

end Intake
