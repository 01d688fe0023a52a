import EntityMapping.Failure
import EntityMapping.Text.LetterCase

/-!
# Files found by name

A file is looked up in a folder by its name without regard to letter case.  The names in the folder
are gone through in order, and the first one that fits and leads to a file is taken, so the order of
the listing does not matter.  Each name on the way is asked whether it leads to a file before it is
compared, so one whose path is too long ends the search whether it fits or not.
-/

namespace EntityMapping

open Text

namespace FileSystem

/-- The names of what lies directly in a folder, in order. -/
def namesIn (fs : FileSystem) (folder : Path) : List String :=
  match fs.locate folder with
  | .ok l => ((fs.entriesAt l).map (·.1)).mergeSort fun s t => !precedes t s
  | .error _ => []

/-- The path of the first of some names in a folder that leads to a file and is the wanted one up to
letter case. -/
def firstFile (fs : FileSystem) (folder : Path) (wanted : String) :
    List String → Except FileError (Option Path)
  | [] => .ok none
  | name :: r => do
    let there ← fs.isFile (folder.child name)
    if there && lowered name == lowered wanted then return some (folder.child name)
    firstFile fs folder wanted r

/-- The path of a file in a folder whose name is the wanted one up to letter case.  What is no
folder holds no file, whatever is wanted. -/
def findFile (fs : FileSystem) (folder : Path) (wanted : Value) :
    Except Failure (Option Path) := do
  if !(← fs.isFolder folder) then return none
  match wanted with
  | .text name => fs.firstFile folder name (fs.namesIn folder)
  | v => throw (.fault (.noAttribute v.kind "lower"))

end FileSystem

end EntityMapping
