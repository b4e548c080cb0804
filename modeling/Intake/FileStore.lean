import Intake.FileSystem

/-!
# File stores

`FileStore m` is what commands need of the files around them, as actions in `m`. Commands are
reasoned about on a tree of files (`OnFiles`), where there is room for every file, and on a `Disk`
(`OnDisk`), where a file may be cut short while it is written. The program itself uses the files of
the machine it runs on.
-/

namespace Intake

/-- Actions on files. The flags say whether an action worked. -/
class FileStore (m : Type → Type) where
  readFile : (path : String) → m FileContent
  /-- Writes a file, in place of one that is there. -/
  writeFile : (path : String) → (content : ByteArray) → m Bool
  /-- Makes a directory and those around it that are missing. -/
  makeDirs : (path : String) → m Bool
  /-- Removes a directory with all that is in it, if there is one. -/
  removeDir : (path : String) → m Bool

/-- Actions that may fail have the files of those that do not. -/
instance {ε : Type} {m : Type → Type} [Monad m] [FileStore m] : FileStore (ExceptT ε m) where
  readFile path := ExceptT.lift (FileStore.readFile path)
  writeFile path content := ExceptT.lift (FileStore.writeFile path content)
  makeDirs path := ExceptT.lift (FileStore.makeDirs path)
  removeDir path := ExceptT.lift (FileStore.removeDir path)

/-- A command on a tree of files with room for every file. -/
abbrev OnFiles := StateM FileSystem

instance : FileStore OnFiles where
  readFile path := do return (← get).readFile path
  writeFile path content := do
    match (← get).writeFile? path content with
    | some fs =>
      set fs
      return true
    | none => return false
  makeDirs path := do
    let (fs, worked) := (← get).makeDirs path
    set fs
    return worked
  removeDir path := do
    let (fs, worked) := (← get).removeDir path
    set fs
    return worked

/-- Files on a disk that may have no room for all that is written to it. -/
structure Disk where
  files : FileSystem
  /-- How many bytes there is room for in each file that is opened to be written, one after the
  other; after the last of these there is room for whole files. -/
  room : List Nat
  /-- The paths of the files that have been opened to be written. -/
  opened : List String

namespace Disk

/-- Writes a file, in place of one that is there, and says whether it is complete. -/
def writeFile (d : Disk) (path : String) (content : ByteArray) : Disk × Bool :=
  match d.files.writeUpTo? d.room[d.opened.length]? path content with
  | some (files, complete) => ({ d with files, opened := d.opened ++ [path] }, complete)
  | none => (d, false)

end Disk

/-- A command on a disk. -/
abbrev OnDisk := StateM Disk

instance : FileStore OnDisk where
  readFile path := do return (← get).files.readFile path
  writeFile path content := do
    let (d, complete) := (← get).writeFile path content
    set d
    return complete
  makeDirs path := do
    let d ← get
    let (files, worked) := d.files.makeDirs path
    set { d with files }
    return worked
  removeDir path := do
    let d ← get
    let (files, worked) := d.files.removeDir path
    set { d with files }
    return worked

end Intake
