import Coursebook.Cli.Command

/-!
# Coursebook — the command line

Runs the full command on real files. What the command may look at is loaded first; then the command
runs on what has been loaded, and what it has made is written out.
-/

open Coursebook
open Coursebook.Files

namespace Coursebook

/-- A location as the system writes it. -/
def systemPath (l : Location) : String := "/" ++ "/".intercalate l

/-- Stands for the content of a file that no command reads; no command writes such a content. -/
def unread : Content := .zip []

/-- What stands at a location, if there is anything; the content of a file is read if `wanted`. -/
def loadEntry (l : Location) (wanted : Bool) : IO (Option Entry) := do
  let path := (← IO.FS.realPath "/") / systemPath l
  if ← path.isDir then return some .directory
  else if ← path.pathExists then
    if wanted then return some (.file (.octets (← IO.FS.readBinFile path).toList))
    else return some (.file unread)
  else return none

/-- The names in a directory. -/
def namesIn (l : Location) : IO (List String) := do
  let path := (← IO.FS.realPath "/") / systemPath l
  return (← path.readDir).toList.map (·.fileName)

/-- Loads all that stands on the way along names. -/
def loadAlong (d : Disk) (l : Location) : List String → IO Disk
  | [] => return d
  | name :: r => do
    let l := if name = ".." then l.dropLast else l ++ [name]
    match ← loadEntry l (Archive.hasSuffix name) with
    | some e => loadAlong (if l = [] then d else d.put l e) l r
    | none => return d

/-- Loads what stands at names in a directory. -/
def loadNames (d : Disk) (l : Location) (wanted : String → Bool) : List String → IO Disk
  | [] => return d
  | name :: r => do
    let d ← match ← loadEntry (l ++ [name]) (wanted name) with
      | some e => pure (d.put (l ++ [name]) e)
      | none => pure d
    loadNames d l wanted r

/-- Loads all that stands below a directory, without the contents of files. -/
partial def loadBelow (d : Disk) (l : Location) : IO Disk := do
  let names ← namesIn l
  let mut d ← loadNames d l (fun _ => false) names
  for name in names do
    if d.tree.find? (l ++ [name]) = some .directory then
      d ← loadBelow d (l ++ [name])
  return d

/-- Loads what a command may look at with a path to read from. -/
def loadInput (d : Disk) (p : Path) : IO Disk := do
  let d ← loadAlong d (d.start p) p.names
  match d.locate p with
  | .error _ => return d
  | .ok l =>
    if d.tree.find? l = some .directory then loadNames d l Archive.hasSuffix (← namesIn l)
    else return d

/-- Loads what a command may look at with a path to write to. -/
def loadOutput (d : Disk) (p : Path) : IO Disk := do
  let d ← loadAlong d (d.start p) p.names
  match d.locate p with
  | .error _ => return d
  | .ok l => if d.tree.find? l = some .directory then loadBelow d l else return d

/-- Writes out what a command has made, directories before what is in them. -/
def writeOut (before after : Disk) : IO Unit := do
  let made := after.tree.entries.filter fun (l, e) => before.tree.find? l ≠ some e
  for (l, e) in made.mergeSort fun a b => a.1.length ≤ b.1.length do
    match e with
    | .directory => IO.FS.createDirAll (systemPath l)
    | .file content => IO.FS.writeBinFile (systemPath l) ⟨content.bytes.toArray⟩

/-- The working directory, with nothing loaded. -/
def emptyDisk : IO Disk := do
  let here := (Path.ofString (toString (← IO.currentDir))).names
  loadAlong { here } [] here

/-- The disk as a command with some arguments may look at it. -/
def loadFor (line : List String) : IO Disk := do
  let d ← emptyDisk
  match Cli.Arguments.read Cli.Command.full.options line with
  | .error _ => return d
  | .ok a => loadOutput (← loadInput d (.ofString a.input)) (.ofString a.output)

/-- Writes what a command says beside its output. -/
def complain : Cli.Complaint → IO Unit
  | .none => return
  | .usage text => IO.eprint text
  | .trace e => IO.eprintln e.message

end Coursebook

/-- Runs the full command. -/
def main (line : List String) : IO UInt32 := do
  let before ← loadFor line
  let (ending, world) := Cli.runFull line { disk := before }
  ending.output.forM IO.println
  complain ending.complaint
  writeOut before world.disk
  return UInt32.ofNat ending.exitCode
