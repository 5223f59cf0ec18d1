import Coursebook.Archive.Unpack
import Coursebook.Conversion.Report
import Coursebook.Media.Assets

/-!
# Coursebook — conversions

The conversion of a course directory, of an archive, and of all archives in a directory. An archive
is unpacked into a directory that is gone afterwards. In a batch a course that fails does not keep
the others from being converted.
-/

namespace Coursebook

open Course Files

/-- What converts courses. -/
structure Converter where
  config : Config := {}
  registry : Registry

namespace Converter

/-- The converter with the usual kinds of component. -/
def standard (config : Config) : Converter := ⟨config, .standard config⟩

/-- Makes the document of a course, from its outline; the result holds what has become of the
components. -/
def makeDocument (c : Converter) (o : Outline) (root : Path) : Step World (String × Tally) :=
  fun w =>
    let (result, progress) :=
      (writeDocument c.config c.registry w.disk o (some root)).run ⟨{}, w.notices⟩
    (result.map (·, progress.tally), { w with notices := progress.notices })

/-- Converts the course in a directory. -/
def convertDirectory (c : Converter) (root out : Path) : Step World Report := do
  let root ← World.reading (Reading.ofLoad (resolveRoot (← World.getDisk) root))
  World.tell .readingCourse
  let outline ← World.reading (readOutline (← World.getDisk) root c.registry.kinds)
  World.tell .converting
  let (markdown, tally) ← c.makeDocument outline root
  World.tell .writing
  let markdownFile ← Media.writeMarkdown c.config out markdown
  let copies ← Media.copyAssets c.config root out
  return .ofCourse outline tally markdownFile copies.length

/-- The directory that archives are unpacked in. -/
def workshop : Path := .ofString "courseconverter_tmp"

/-- Makes the directory that archives are unpacked in. -/
def openWorkshop (d : Disk) : Disk :=
  match d.makeDirectory workshop with
  | .ok d => d
  | .error _ => d

/-- The directory for the course of an archive, in the directory for all. -/
def courseDirectory (out archive : Path) : Path := out.child (Archive.courseName archive)

/-- Converts the course in an archive, into a directory of its own. -/
def convert (c : Converter) (archive out : Path) : Step World Report := do
  World.tell (.openingArchive archive.name)
  modify fun w => { w with disk := openWorkshop w.disk }
  World.finally_ (do
      let unpacked := workshop.child "extracted"
      Archive.unpack archive unpacked
      c.convertDirectory unpacked (courseDirectory out archive))
    (·.remove workshop)

/-- Converts archives, one after the other, the first of them the `index`-th of `count`. -/
def convertAll (c : Converter) (out : Path) (count index : Nat) :
    List Path → Step World (List ArchiveReport)
  | [] => return []
  | archive :: r => do
    World.tell (.openingCourse index count archive.name)
    let outcome ← World.attempt (c.convert archive out)
    match outcome with
    | .ok _ => pure ()
    | .error e => World.tell (.failedCourse archive.name e.message)
    return ⟨archive.name, outcome.mapError Failure.message⟩ ::
      (← c.convertAll out count (index + 1) r)

/-- Converts every archive that a path stands for. -/
def convertBatch (c : Converter) (input out : Path) : Step World (List ArchiveReport) := do
  let archives ← World.reading (ExceptT.mk (pure (Archive.find (← World.getDisk) input)))
  World.change (ensureDirectories out)
  World.tell (.foundArchives archives.length)
  let reports ← c.convertAll out archives.length 1 archives
  let succeeded := (reports.filter (·.success)).length
  World.tell (.completed succeeded (reports.length - succeeded))
  return reports

end Converter

end Coursebook
