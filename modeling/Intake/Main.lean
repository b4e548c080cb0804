import Intake.Command

/-!
# The program

Runs the program on the files of the machine.
-/

namespace Intake

/-- Runs an action on files, and says whether it worked. -/
def attempt (action : IO Unit) : IO Bool := do
  try
    action
    return true
  catch _ => return false

/-- The files of the machine. What can be opened but not read is a directory. -/
instance : FileStore IO where
  readFile path := do
    match ← (IO.FS.Handle.mk path .read).toBaseIO with
    | .error _ => return .nothing
    | .ok handle =>
      match ← handle.readBinToEnd.toBaseIO with
      | .ok content => return .bytes content
      | .error _ => return .directory
  writeFile path content := attempt (IO.FS.writeBinFile path content)
  makeDirs path := attempt (IO.FS.createDirAll path)
  removeDir path := do
    match ← (IO.FS.removeDirAll path).toBaseIO with
    | .ok _ => return true
    | .error (.noFileOrDirectory ..) => return true
    | .error _ => return false

end Intake

/-- Runs the program on its arguments. -/
def main (arguments : List String) : IO UInt32 := do
  let outcome ← Intake.outcomeOf arguments
  (← IO.getStdout).putStr outcome.output
  (← IO.getStderr).putStr outcome.errorOutput
  return outcome.exitCode.toUInt32
