import Coursebook.Archive.Name
import Coursebook.Archive.Open
import Coursebook.Conversion.Step

/-!
# Coursebook — finding and unpacking archives

An archive is unpacked into a directory. Where all its members are in one directory, that directory
is left out. Members that would leave the directory, links and special files are passed over.
-/

namespace Coursebook.Archive

open Coursebook.Files

/-- The names of the archives among names in a directory. Everything is looked at, whatever it is
called. -/
def archivesAmong (d : Disk) (directory : Path) : List String → Except FileError (List String)
  | [] => .ok []
  | name :: r => do
    let isFile ← d.isFile (directory.join ⟨.relative, [name]⟩)
    let others ← archivesAmong d directory r
    return if isFile && hasSuffix name then name :: others else others

/-- The archives that a path stands for: itself, or those in the directory, in the order of their
names. -/
def find (d : Disk) (input : Path) : Except Failure (List Path) := do
  if !(← (d.has input).mapError Failure.file) then .error (.archive (.noInput input))
  else if ← (d.isFile input).mapError Failure.file then
    if hasSuffix input.name then .ok [input] else .error (.archive (.notArchive input))
  else
    let names ← (archivesAmong d input ((d.list input).map Prod.fst)).mapError Failure.file
    match names.mergeSort fun a b => decide (a ≤ b) with
    | [] => .error (.archive (.noArchives input))
    | names => .ok (names.map fun name => input.join ⟨.relative, [name]⟩)

/-- The parts of a member's name: the root, if it starts there, and the names. -/
def Member.parts (m : Member) : List String := (Path.ofString m.name).parts

/-- The directory that all members are in, if there is one. -/
def wrapper? (members : List Member) : Option String :=
  let parts := members.map Member.parts
  match (parts.filterMap List.head?).eraseDups with
  | [top] => if parts.all (· == [top]) then none else some top
  | _ => none

/-- The names that lead to where a member is unpacked, if it is. -/
def Member.target? (wrapper : Option String) (m : Member) : Option (List String) :=
  let names := match wrapper with
    | some _ => m.parts.drop 1
    | none => m.parts
  if names = [] ∨ m.name.startsWith "/" ∨ ".." ∈ names then none else some names

/-- Unpacks a member. -/
def unpackMember (destination : Path) (wrapper : Option String) (m : Member) : Change Unit :=
  match m.target? wrapper with
  | none => return
  | some names =>
    let target := destination.join ⟨.relative, names⟩
    match m.kind with
    | .other => return
    | .directory => ensureDirectories target
    | .file octets => do
      ensureDirectories target.parent
      write target (.octets octets)

/-- Unpacks members, one after the other. -/
def unpackAll (destination : Path) (wrapper : Option String) : List Member → Change Unit
  | [] => return
  | m :: r => do
    unpackMember destination wrapper m
    unpackAll destination wrapper r

/-- The failure that a fault of a file is in the unpacking of an archive. -/
def unpackFailure (name : String) (e : FileError) : Failure :=
  if e.fault = .nullCharacter then .file e else .archive (.unpack name (.file e))

/-- The failure to open an archive. -/
def openFailure (name : String) : FormatFault → Failure
  | .compressed .cutShort => .cutShort
  | e => .archive (.unpack name (.format e))

/-- The members of the archive at a path. -/
def load (d : Disk) (archive : Path) : Except Failure (List Member) :=
  match d.read archive with
  | .error e => .error (unpackFailure archive.name e)
  | .ok content => (members content).mapError (openFailure archive.name)

/-- Takes a change in the unpacking of an archive. -/
def unpacking (name : String) (x : Change Unit) : Step World Unit := fun w =>
  let (result, disk) := x.run w.disk
  (result.mapError (unpackFailure name), { w with disk })

/-- Unpacks the archive at a path into a directory. -/
def unpack (archive destination : Path) : Step World Unit := do
  World.change (ensureDirectories destination)
  match load (← World.getDisk) archive with
  | .error e => throw e
  | .ok members => unpacking archive.name (unpackAll destination (wrapper? members) members)
  World.tell (.unpacked destination)

end Coursebook.Archive
