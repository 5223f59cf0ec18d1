import Coursebook.Files.Disk

/-!
# Coursebook — changing a disk

Making directories, writing, copying and removing files. A change that fails half way keeps what it
has done so far.
-/

namespace Coursebook.Files

/-- A change of a disk that may fail. -/
abbrev Change := ExceptT FileError (StateM Disk)

/-- The disk with an entry put at a location. -/
def Disk.put (d : Disk) (l : Location) (e : Entry) : Disk := { d with tree := d.tree.put l e }

/-- Makes a directory in one that is there. -/
def Disk.makeDirectory (d : Disk) (p : Path) : Except FileFault Disk := do
  let l ← d.locate p
  match d.tree.find? l with
  | some _ => .error .exists_
  | none => .ok (d.put l .directory)

/-- Makes a directory in one that is there, unless it is there itself. -/
def ensureDirectory (p : Path) : Change Unit := do
  let d ← get
  match d.makeDirectory p with
  | .ok d => set d
  | .error .nullCharacter => throw ⟨.nullCharacter, p⟩
  | .error fault => if !(← d.isDirectory p) then throw ⟨fault, p⟩

/-- Makes a directory and those around it, unless they are there. -/
def ensureDirectories (p : Path) : Change Unit := do
  match (← get).makeDirectory p with
  | .error .missing =>
    if p.names = [] then throw ⟨.missing, p⟩
    else
      ensureDirectories p.parent
      ensureDirectory p
  | _ => ensureDirectory p
termination_by p.names.length
decreasing_by
  rename_i h
  simp only [Path.parent, List.length_dropLast]
  have := List.length_pos_iff.mpr h
  omega

/-- Writes a file into a directory that is there. -/
def write (p : Path) (c : Content) : Change Unit := do
  let d ← get
  match d.locate p with
  | .error fault => throw ⟨fault, p⟩
  | .ok l =>
    match d.tree.find? l with
    | some .directory => throw ⟨.isDirectory, p⟩
    | _ => set (d.put l (.file c))

/-- Removes a path with all below it, if it is there. -/
def Disk.remove (d : Disk) (p : Path) : Disk :=
  match d.locate p with
  | .ok l => { d with tree := d.tree.removeAll l }
  | .error _ => d

/-- Removes a file, if there is anything at its path. -/
def removeFile (p : Path) : Change Unit := do
  let d ← get
  match d.entry p with
  | .ok .directory => throw ⟨.isDirectory, p⟩
  | .ok (.file _) => set (d.remove p)
  | .error _ => return

/-! ## Copying -/

/-- Why a file cannot be copied. -/
inductive CopyError where
  | file (e : FileError)
  /-- The copy would be the file itself. -/
  | same (source target : Path)
  deriving DecidableEq, Repr

/-- Why a file cannot be copied, in words. -/
def CopyError.message : CopyError → String
  | .file e => e.message
  | .same source target => s!"{objectText source} and {objectText target} are the same file"

/-- Whether two paths lead to the same file or directory. -/
def Disk.same (d : Disk) (p q : Path) : Bool :=
  match d.locate p, d.locate q with
  | .ok l, .ok k => l = k && (d.tree.find? l).isSome
  | _, _ => false

/-- Where a copy of a file goes: into the target under its own name, if that is a directory. -/
def Disk.copyTarget (d : Disk) (source target : Path) : Path :=
  match d.isDirectory target with
  | .ok true => target.join ⟨.relative, [source.name]⟩
  | _ => target

/-- Copies a file. -/
def copy (source target : Path) : ExceptT CopyError (StateM Disk) Unit := do
  let d ← get
  let target := d.copyTarget source target
  if d.same source target then throw (.same source target)
  match d.read source with
  | .error e => throw (.file e)
  | .ok c => ExceptT.adapt .file (write target c)

end Coursebook.Files
