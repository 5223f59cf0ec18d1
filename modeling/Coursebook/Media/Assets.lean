import Coursebook.Conversion.Config
import Coursebook.Conversion.Step
import Coursebook.Media.FileName

/-!
# Coursebook — writing a course

What a converted course consists of: the document, and the media directory with a copy of every
static file of the course. A file that cannot be copied is left out; a path below the static
directory that is too long to be looked at ends the conversion.
-/

namespace Coursebook.Media

open Coursebook.Files

/-- The media directory of a converted course. -/
def mediaPath (config : Config) (out : Path) : Path := out.child config.mediaDir

/-- The static files of a course. -/
def staticPath (root : Path) : Path := root.child "static"

/-- Writes the document of a course; the result is where it is. -/
def writeMarkdown (config : Config) (out : Path) (markdown : String) : Step World Path := do
  World.change (ensureDirectories out)
  let path := out.child config.markdownFile
  World.change (write path (.ofText markdown))
  World.tell (.wroteMarkdown path)
  return path

/-- The name of the copy of a static file. -/
def copyName (names : List String) : String :=
  .ofList (mediaName ("/".intercalate names).toList)

/-- What stands below a directory and is of some kind, by the names that lead there, in order. -/
def namesBelow (d : Disk) (directory : Path) (kind : Entry → Bool) : List (List String) :=
  let found := (d.listAll directory).filterMap fun (names, e) => if kind e then some names else none
  found.mergeSort namesLe

/-- The static files below a directory, by the names that lead to them, in order. -/
def staticFiles (d : Disk) (directory : Path) : List (List String) :=
  namesBelow d directory (· != .directory)

/-- Looks into directories, one after the other. -/
def lookInto (source : Path) : List (List String) → Step World Unit
  | [] => return
  | names :: r => do
    let _ ← World.ask (·.isDirectory (source.join ⟨.relative, names⟩))
    lookInto source r

/-- Copies static files, one after the other; the result is the names of the copies. -/
def copyFiles (source target : Path) : List (List String) → Step World (List String)
  | [] => return []
  | names :: r => do
    let file := source.join ⟨.relative, names⟩
    if ← World.ask (·.isFile file) then
      let name := copyName names
      match ← World.tryCopy file (target.child name) with
      | .error e =>
        World.tell (.failedCopy ("/".intercalate names) e.message)
        copyFiles source target r
      | .ok _ => return name :: (← copyFiles source target r)
    else copyFiles source target r

/-- Copies the static files of a course into its media directory; the result is the names of the
copies. -/
def copyAssets (config : Config) (root out : Path) : Step World (List String) := do
  let media := mediaPath config out
  World.change (ensureDirectories media)
  let directory := staticPath root
  if ← World.ask (·.has directory) then
    let d ← World.getDisk
    lookInto directory (namesBelow d directory (· == .directory))
    let copies ← copyFiles directory media (staticFiles d directory)
    if copies ≠ [] then World.tell (.copiedMedia copies.length media)
    return copies
  else
    World.tell .noStaticFiles
    return []

end Coursebook.Media
