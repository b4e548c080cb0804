import Intake.FileTree
import Intake.Path

/-!
# File systems

A `FileSystem` is a tree of files that paths are followed in (`FileSystem.resolve`), relative ones
from its root. The operations are those that commands need: reading and writing a file, making a
directory with those around it, and removing a directory with all that is in it. They fail because
of what is in the tree, such as a file where a directory would have to be; faults of the device, of
links and of permissions are no part of it. Only for the bytes of a file there may be no room: such
a file is cut short (`FileSystem.writeUpTo?`), and `FileSystem.writeFile?` is the case that there is
room for all of them. Any other operation that fails leaves the files as they are, with one
exception: a directory that is named by points is emptied before it turns out that it cannot be
removed.
-/

namespace Intake

/-- A tree of files below a root directory. -/
structure FileSystem where
  entries : List (String × FileTree)
  deriving Inhabited

/-- Why a path does not lead anywhere. -/
inductive PathFault where
  /-- A name on the way, or the file itself, is not there. -/
  | missing
  /-- The way is blocked: by a file in place of a directory, by what is there already, or by a name
  that no file can have. -/
  | blocked
  deriving DecidableEq, Repr

/-- What a path leads to. -/
inductive Target where
  /-- A directory that is named by points, or by nothing. -/
  | directory (loc : Location)
  /-- A name in a directory, whether there is such an entry or not. With a slash after it the name
  can only be that of a directory. -/
  | entry (parent : Location) (name : String) (withSlash : Bool)
  deriving DecidableEq, Repr

/-- What comes of reading a file. -/
inductive FileContent where
  | bytes (content : ByteArray)
  /-- There is a directory instead. -/
  | directory
  /-- There is nothing that can be read. -/
  | nothing

namespace FileContent

instance : DecidableEq FileContent
  | bytes a, bytes b =>
    if h : a.data = b.data then .isTrue (congrArg bytes (ByteArray.ext h))
    else .isFalse fun e => h (by cases e; rfl)
  | directory, directory | nothing, nothing => .isTrue rfl
  | bytes _, directory | bytes _, nothing | directory, bytes _ | directory, nothing
  | nothing, bytes _ | nothing, directory => .isFalse nofun

end FileContent

namespace FileSystem

/-- The greatest number of bytes of a name. -/
def maxNameSize : Nat := 255

/-- The number of bytes that a path does not reach. -/
def maxPathSize : Nat := 4096

/-- The tree without files. -/
def empty : FileSystem := ⟨[]⟩

/-- The root directory. -/
def root (fs : FileSystem) : FileTree := .dir fs.entries

/-- What is at a location. -/
def at? (fs : FileSystem) (loc : Location) : Option FileTree := fs.root.at? loc

/-- The files with another tree, or none, at a location. -/
def place (fs : FileSystem) (loc : Location) (n? : Option FileTree) : FileSystem :=
  ⟨(FileTree.place n? fs.root loc).entries⟩

/-- Follows names from a directory. -/
def follow (fs : FileSystem) (withSlash : Bool) : Location → List String → Except PathFault Target
  | loc, [] => .ok (.directory loc)
  | loc, name :: rest =>
    if name = "." then follow fs withSlash loc rest
    else if name = ".." then follow fs withSlash loc.dropLast rest
    else if maxNameSize < name.utf8ByteSize then .error .blocked
    else if rest.isEmpty then .ok (.entry loc name withSlash)
    else
      match fs.at? (loc ++ [name]) with
      | some (.dir _) => follow fs withSlash (loc ++ [name]) rest
      | some (.file _) => .error .blocked
      | none => .error .missing

/-- What a path leads to. -/
def resolve (fs : FileSystem) (path : String) : Except PathFault Target :=
  if path = "" then .error .missing
  else if maxPathSize ≤ path.utf8ByteSize || path.toList.contains '\x00' then .error .blocked
  else fs.follow (Path.endsWithSlash path) [] (Path.segments path)

/-- Does a path lead to a directory? -/
def isDir (fs : FileSystem) (path : String) : Bool :=
  match fs.resolve path with
  | .ok (.directory _) => true
  | .ok (.entry parent name _) => (fs.at? (parent ++ [name])).any FileTree.isDir
  | .error _ => false

/-- Reads a file. -/
def readFile (fs : FileSystem) (path : String) : FileContent :=
  match fs.resolve path with
  | .ok (.directory _) => .directory
  | .ok (.entry parent name withSlash) =>
    match fs.at? (parent ++ [name]) with
    | some (.file content) => if withSlash then .nothing else .bytes content
    | some (.dir _) => .directory
    | none => .nothing
  | .error _ => .nothing

/-- Writes a file for which there is room, in place of one that is there. Nothing is written where
it cannot be opened. -/
def writeFile? (fs : FileSystem) (path : String) (content : ByteArray) : Option FileSystem :=
  match fs.resolve path with
  | .ok (.entry parent name false) =>
    if (fs.at? (parent ++ [name])).any FileTree.isDir then none
    else some (fs.place (parent ++ [name]) (some (.file content)))
  | _ => none

/-- Writes as many bytes of a file as there is room for; without a bound there is room for all of
them. A file that is there is emptied first, so that it is lost also where the new one is cut short.
The flag says whether the new one is complete. -/
def writeUpTo? (fs : FileSystem) (room? : Option Nat) (path : String) (content : ByteArray) :
    Option (FileSystem × Bool) :=
  match room?.filter (· < content.size) with
  | some room => (fs.writeFile? path (content.extract 0 room)).map (·, false)
  | none => (fs.writeFile? path content).map (·, true)

/-- Makes a directory in one that is there. -/
def makeDir (fs : FileSystem) (path : String) : Except PathFault FileSystem :=
  match fs.resolve path with
  | .ok (.entry parent name _) =>
    if (fs.at? (parent ++ [name])).isSome then .error .blocked
    else .ok (fs.place (parent ++ [name]) (some (.dir [])))
  | .ok (.directory _) => .error .blocked
  | .error e => .error e

/-- Makes a directory, unless it is there already. -/
def ensureDir? (fs : FileSystem) (path : String) : Option FileSystem :=
  match fs.makeDir path with
  | .ok fs => some fs
  | .error _ => if fs.isDir path then some fs else none

/-- Makes a directory and those around it that are missing, `levels` of them at most. The result is
the tree and whether it worked; directories that could be made stay in any case. -/
def makeDirsUpTo : (levels : Nat) → FileSystem → (path : String) → FileSystem × Bool
  | 0, fs, _ => (fs, false)
  | levels + 1, fs, path =>
    if path = "" then (fs, true)
    else
      match fs.makeDir path with
      | .ok fs => (fs, true)
      | .error .blocked => (fs, fs.isDir path)
      | .error .missing =>
        match Path.parent? path with
        | none => (fs, false)
        | some parent =>
          match makeDirsUpTo levels fs parent with
          | (fs, false) => (fs, false)
          | (fs, true) =>
            match fs.ensureDir? path with
            | some fs => (fs, true)
            | none => (fs, false)

/-- Makes a directory and those around it that are missing. -/
def makeDirs (fs : FileSystem) (path : String) : FileSystem × Bool :=
  makeDirsUpTo ((Path.segments path).length + 1) fs path

/-- Removes a directory with all that is in it; there need not be one. -/
def removeDir (fs : FileSystem) (path : String) : FileSystem × Bool :=
  match fs.resolve path with
  | .error .missing => (fs, true)
  | .error .blocked => (fs, false)
  | .ok (.entry parent name _) =>
    match fs.at? (parent ++ [name]) with
    | none => (fs, true)
    | some (.file _) => (fs, false)
    | some (.dir _) => (fs.place (parent ++ [name]) none, true)
  | .ok (.directory loc) =>
    let emptied := if loc.isEmpty then empty else fs.place loc (some (.dir []))
    (emptied, match emptied.resolve path with
      | .error .missing => true
      | _ => false)

/-- All paths in the tree, in order; those of directories end with a slash. -/
def listing (fs : FileSystem) : List String :=
  (fs.root.listing "").mergeSort fun a b => decide (a ≤ b)

end FileSystem

end Intake
