import Intake.Text.Blank

/-!
# Paths

Paths are texts in which slashes separate the names. `Path.join` appends a relative path to a
directory, and an absolute path replaces the directory. A path is followed name by name
(`Path.segments`), where one point means the directory itself and two points the one around it;
`Path.parent?` drops the last name, for which single points do not count except at the beginning.
-/

namespace Intake.Path

/-- Does a path begin at the root? -/
def isAbsolute (path : String) : Bool := path.toList.head? == some '/'

/-- Does a path end with a slash? -/
def endsWithSlash (path : String) : Bool := path.toList.getLast? == some '/'

/-- The path of something inside a directory. -/
def join (dir path : String) : String :=
  if isAbsolute path then path
  else if dir = "" ∨ endsWithSlash dir then dir ++ path
  else dir ++ "/" ++ path

/-- The names of a path, in order. -/
def segments (path : String) : List String :=
  ((Text.splitOn '/' path.toList).map String.ofList).filter (· ≠ "")

/-- The names of a path without single points; one at the beginning of a relative path is kept. -/
def components (path : String) : List String :=
  match segments path with
  | [] => []
  | first :: rest =>
    let rest := rest.filter (· ≠ ".")
    if first = "." ∧ isAbsolute path then rest else first :: rest

/-- The path without its last name; neither the root nor the empty path has one. -/
def parent? (path : String) : Option String :=
  match components path with
  | [] => none
  | names =>
    some ((if isAbsolute path then "/" else "") ++ "/".intercalate names.dropLast)

end Intake.Path
