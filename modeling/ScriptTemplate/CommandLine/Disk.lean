/-
# A disk in memory

Files and directories by their place: the steps from the root.  A path is followed step by step
from the root or from the current directory, and the first step that fails decides.  A step up
leads to the directory above; above the root is the root.
-/
import ScriptTemplate.CommandLine.Files

namespace ScriptTemplate.CommandLine

/-- What stands at a place. -/
inductive DiskEntry
  | file (content : Text)
  | directory
deriving DecidableEq, Repr, Inhabited

/-- Files and directories, and the directory that relative paths start from. -/
structure Disk where
  entries : List (List Text × DiskEntry) := []
  current : List Text := []
deriving DecidableEq, Repr, Inhabited

namespace Disk

/-- The most bytes of a step. -/
def stepLimit : Nat := 255

/-- The most bytes of a path. -/
def pathLimit : Nat := 4095

/-- The step that leads up. -/
def upward : Text := ".."

/-- Follows steps from a directory. -/
def follow (disk : Disk) (place : List Text) : List Text → FileContent
  | [] => .directory
  | step :: rest =>
    if step = upward then disk.follow place.dropLast rest
    else if stepLimit < byteLength step then .nameTooLong
    else
      let next := place ++ [step]
      match disk.entries.lookup next with
      | none => .missing
      | some .directory => disk.follow next rest
      | some (.file content) => if rest.isEmpty then .text content else .belowFile

/-- What is found under a path. -/
def files (disk : Disk) : Files := fun path =>
  if pathLimit < byteLength path then .nameTooLong
  else disk.follow (if (pathRoot path).isEmpty then disk.current else []) (pathSteps path)

end Disk

end ScriptTemplate.CommandLine
