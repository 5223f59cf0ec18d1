import Coursebook.Conversion.Failure
import Coursebook.Conversion.Notice
import Coursebook.Files.Change

/-!
# Coursebook — steps

A conversion is made of steps over a state that they keep even if they fail. Reading a course only
gives notices; a conversion as a whole also changes the disk.
-/

namespace Coursebook

open Files

/-- A step that may fail, over a state that it keeps also where it does. -/
abbrev Step (σ : Type) := ExceptT Failure (StateM σ)

/-- A step that only gives notices. -/
abbrev Reading := Step (List Notice)

/-- What a conversion works on. -/
structure World where
  disk : Disk := {}
  /-- The notices given so far. -/
  notices : List Notice := []
  deriving Repr

/-- Gives a notice. -/
def Reading.tell (n : Notice) : Reading Unit := modify (· ++ [n])

/-- The answer to a question about a disk. -/
def Step.answer {σ α : Type} (x : Except FileError α) : Step σ α :=
  ExceptT.mk (pure (x.mapError .file))

namespace World

/-- Gives a notice. -/
def tell (n : Notice) : Step World Unit := modify fun w => { w with notices := w.notices ++ [n] }

/-- The disk as it is. -/
def getDisk : Step World Disk := do return (← get).disk

/-- Takes a step that only reads. -/
def reading {α : Type} (x : Reading α) : Step World α := fun w =>
  let (result, notices) := x.run w.notices
  (result, { w with notices })

/-- Changes the disk. -/
def change {α : Type} (x : Change α) : Step World α := fun w =>
  let (result, disk) := x.run w.disk
  (result.mapError .file, { w with disk })

/-- Asks a question about the disk. -/
def ask {α : Type} (question : Disk → Except FileError α) : Step World α := do
  Step.answer (question (← getDisk))

/-- Copies a file; the result says why that failed. -/
def tryCopy (source target : Path) : Step World (Except CopyError Unit) := fun w =>
  let (result, disk) := (copy source target).run w.disk
  (.ok result, { w with disk })

/-- Takes a step; the result says why it failed. -/
def attempt {α : Type} (x : Step World α) : Step World (Except Failure α) := fun w =>
  let (result, w) := x.run w
  (.ok result, w)

/-- Takes a step, then changes the disk whether or not the step has failed. -/
def finally_ {α : Type} (x : Step World α) (last : Disk → Disk) : Step World α := fun w =>
  let (result, w) := x.run w
  (result, { w with disk := last w.disk })

end World

end Coursebook
