import SchoolAtlas.Command

/-!
# The Program

Runs a command line on the files of the machine.

Everything that a command may look at is read first, and what it answers follows
from that alone. A command line that cannot be read ends the program with two, a
command that fails with one.
-/

namespace SchoolAtlas

/-- How the program is used. -/
def usage : String :=
  "usage: school-atlas sql [OPTIONS]\n"
    ++ "       school-atlas map --data-dir <DIR> [OPTIONS]\n"
    ++ "       school-atlas roster --data-dir <DIR> [OPTIONS]"

/-- The number of the error that a path goes through a file as if it were a
    directory. Some system calls report it as a negative number. -/
def isNotDirectory (code : UInt32) : Bool := code = 20 || code = -20

/-- What is found under a path on the machine. Nothing lies below a file. -/
def lookUp (path : String) : IO Entry := do
  try
    return .file (← IO.FS.readBinFile path)
  catch
    | .noFileOrDirectory .. => return .missing
    | .inappropriateType _ code _ =>
      return if isNotDirectory code then .missing else .unreadable
    | _ => return .unreadable

/-- What is found under some paths on the machine. -/
def lookUpAll (paths : List String) : IO Files := do
  let found ← paths.mapM fun path => return (path, ← lookUp path)
  return fun path => (found.lookup path).getD .missing

/-- The paths that a command line may look at. -/
def pathsOf (words : List String) : List String :=
  match Command.ofWords? words with
  | some command => command.paths
  | none => []

end SchoolAtlas

open SchoolAtlas in
/-- Runs a command line. -/
def main (words : List String) : IO UInt32 := do
  match CommandLine.outcome words (← lookUpAll (pathsOf words)) with
  | .printed text =>
    IO.print text
    return 0
  | .failed e =>
    IO.eprintln ("Error: " ++ (e.message?.getD "the data cannot be read"))
    return 1
  | .misused =>
    IO.eprintln usage
    return 2
