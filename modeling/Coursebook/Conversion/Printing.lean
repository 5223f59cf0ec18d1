import Coursebook.Conversion.Convert

/-!
# Coursebook — printing on the way

The steps of a conversion as somebody watches them who is told only what the settings ask for: a
notice is given where it comes up if the settings are verbose, and else nothing is. The steps that
give every notice leave that choice to what is made of the notices in the end; which of the two ways
is taken makes no difference.
-/

namespace Coursebook

open Course Files

/-- Takes a step only if the settings ask to be told about progress. -/
def Config.ifVerbose {σ : Type} (config : Config) (x : Step σ Unit) : Step σ Unit :=
  if config.verbose then x else pure ()

namespace Printing

variable {α β : Type}

/-! ## The outline -/

/-- Reads the parts of a level, one after the other. -/
def readParts (config : Config) (d : Disk) (root : Path) (level : String)
    (make : String → String → List β → α) (inside : Xml.Element → Reading (List β)) :
    List String → Reading (List α)
  | [] => return []
  | id :: r => do
    let path := partPath root level id
    let part ←
      if ← Reading.ofLoad (ofDisk (d.has path)) then do
        let e ← Reading.ofLoad (readXml d path)
        pure (make id (partTitle e id) (← inside e))
      else do
        config.ifVerbose (Reading.tell (.missingPart level path))
        pure (make id (missingTitle level id) [])
    return part :: (← readParts config d root level make inside r)

/-- Reads the verticals that an element refers to. -/
def readVerticals (config : Config) (d : Disk) (root : Path) (kinds : List String)
    (e : Xml.Element) : Reading (List Vertical) :=
  readParts config d root "vertical" .mk (fun e => pure (collect kinds e)) (partIds e "vertical")

/-- Reads the sequentials that an element refers to. -/
def readSequentials (config : Config) (d : Disk) (root : Path) (kinds : List String)
    (e : Xml.Element) : Reading (List Course.Sequential) :=
  readParts config d root "sequential" .mk (readVerticals config d root kinds)
    (partIds e "sequential")

/-- Reads the chapters that an element refers to. -/
def readChapters (config : Config) (d : Disk) (root : Path) (kinds : List String)
    (e : Xml.Element) : Reading (List Chapter) :=
  readParts config d root "chapter" .mk (readSequentials config d root kinds) (partIds e "chapter")

/-- Reads the outline of the course in a directory, with the components of some kinds. -/
def readOutline (config : Config) (d : Disk) (root : Path) (kinds : List String) :
    Reading Outline := do
  let path := coursePath root
  if !(← Reading.ofLoad (ofDisk (d.has path))) then throw (.noCourse path)
  let top ← Reading.ofLoad (readXml d path)
  let full ← Reading.ofLoad (describingElement d root top)
  let title := courseTitle top full
  let chapters ← readChapters config d root kinds full
  config.ifVerbose (Reading.tell (.readCourse title chapters.length))
  return { id := courseId top full, title, chapters, root := some root }

/-! ## The document -/

/-- Gives a notice. -/
def tellProgress (n : Notice) : Writing Unit :=
  modify fun p => { p with notices := p.notices ++ [n] }

/-- Keeps a component that could not be written. -/
def keepFailed (ref : Reference) (message : String) : Writing Unit :=
  modify fun p =>
    { p with tally := { p.tally with failed := p.tally.failed ++ [⟨ref.kind, ref.id, message⟩] } }

/-- The lines of a component, the `index`-th of its vertical. -/
def componentLines (config : Config) (s : Source) (index : Nat) (ref : Reference) :
    Writing (List String) := do
  modify (·.counted)
  match s.componentText ref with
  | .ok text => return [text]
  | .error e =>
    if e.isLeaf then do
      config.ifVerbose (tellProgress (.failedComponent ref.kind ref.id e.message))
      keepFailed ref e.message
      return placeholder index e.message
    else throw e

/-- The lines of components, the first of them the `index`-th of its vertical. -/
def componentsLines (config : Config) (s : Source) (index : Nat) :
    List Reference → Writing (List String)
  | [] => return []
  | ref :: r => do
    let lines ← componentLines config s index ref
    return lines ++ (← componentsLines config s (index + 1) r)

/-- The lines of verticals, which have no heading. -/
def verticalsLines (config : Config) (s : Source) : List Vertical → Writing (List String)
  | [] => return []
  | v :: r => do
    let lines ← componentsLines config s 1 v.components
    return lines ++ (← verticalsLines config s r)

/-- The text of each sequential. -/
def sequentialTexts (config : Config) (s : Source) : List Course.Sequential → Writing (List String)
  | [] => return []
  | q :: r => do
    let lines ← verticalsLines config s q.verticals
    return joinLines (s!"### {q.title}\n" :: lines) :: (← sequentialTexts config s r)

/-- The text of each chapter. -/
def chapterTexts (config : Config) (s : Source) : List Chapter → Writing (List String)
  | [] => return []
  | c :: r => do
    let texts ← sequentialTexts config s c.sequentials
    return joinLines (s!"## {c.title}\n" :: texts ++ ["\n---\n"]) :: (← chapterTexts config s r)

/-- The document of a course. -/
def writeDocument (config : Config) (registry : Registry) (d : Disk) (o : Outline)
    (root : Option Path) : Writing String := do
  match root <|> o.root with
  | none => throw .noRoot
  | some root =>
    let texts ← chapterTexts config (Source.mk registry d root) o.chapters
    return joinLines (headerLines config o.title ++ texts ++ footerLines)

/-! ## The files of a course -/

/-- Writes the document of a course; the result is where it is. -/
def writeMarkdown (config : Config) (out : Path) (markdown : String) : Step World Path := do
  World.change (ensureDirectories out)
  let path := out.child config.markdownFile
  World.change (write path (.ofText markdown))
  config.ifVerbose (World.tell (.wroteMarkdown path))
  return path

/-- Copies static files, one after the other; the result is the names of the copies. -/
def copyFiles (config : Config) (source target : Path) :
    List (List String) → Step World (List String)
  | [] => return []
  | names :: r => do
    let file := source.join ⟨.relative, names⟩
    if ← World.ask (·.isFile file) then
      let name := Media.copyName names
      match ← World.tryCopy file (target.child name) with
      | .error e =>
        config.ifVerbose (World.tell (.failedCopy ("/".intercalate names) e.message))
        copyFiles config source target r
      | .ok _ => return name :: (← copyFiles config source target r)
    else copyFiles config source target r

/-- Copies the static files of a course into its media directory. -/
def copyAssets (config : Config) (root out : Path) : Step World (List String) := do
  let media := Media.mediaPath config out
  World.change (ensureDirectories media)
  let directory := Media.staticPath root
  if ← World.ask (·.has directory) then
    let d ← World.getDisk
    Media.lookInto directory (Media.namesBelow d directory (· == .directory))
    let copies ← copyFiles config directory media (Media.staticFiles d directory)
    if copies ≠ [] then config.ifVerbose (World.tell (.copiedMedia copies.length media))
    return copies
  else
    config.ifVerbose (World.tell .noStaticFiles)
    return []

/-- Unpacks the archive at a path into a directory. -/
def unpack (config : Config) (archive destination : Path) : Step World Unit := do
  World.change (ensureDirectories destination)
  match Archive.load (← World.getDisk) archive with
  | .error e => throw e
  | .ok members =>
    Archive.unpacking archive.name
      (Archive.unpackAll destination (Archive.wrapper? members) members)
  config.ifVerbose (World.tell (.unpacked destination))

/-! ## Conversions -/

/-- Makes the document of a course, from its outline. -/
def makeDocument (c : Converter) (o : Outline) (root : Path) : Step World (String × Tally) :=
  fun w =>
    let (result, progress) :=
      (writeDocument c.config c.registry w.disk o (some root)).run ⟨{}, w.notices⟩
    (result.map (·, progress.tally), { w with notices := progress.notices })

/-- Converts the course in a directory. -/
def convertDirectory (c : Converter) (root out : Path) : Step World Report := do
  let root ← World.reading (Reading.ofLoad (resolveRoot (← World.getDisk) root))
  c.config.ifVerbose (World.tell .readingCourse)
  let outline ← World.reading (readOutline c.config (← World.getDisk) root c.registry.kinds)
  c.config.ifVerbose (World.tell .converting)
  let (markdown, tally) ← makeDocument c outline root
  c.config.ifVerbose (World.tell .writing)
  let markdownFile ← writeMarkdown c.config out markdown
  let copies ← copyAssets c.config root out
  return .ofCourse outline tally markdownFile copies.length

/-- Converts the course in an archive, into a directory of its own. -/
def convert (c : Converter) (archive out : Path) : Step World Report := do
  c.config.ifVerbose (World.tell (.openingArchive archive.name))
  modify fun w => { w with disk := Converter.openWorkshop w.disk }
  World.finally_ (do
      let unpacked := Converter.workshop.child "extracted"
      unpack c.config archive unpacked
      convertDirectory c unpacked (Converter.courseDirectory out archive))
    (·.remove Converter.workshop)

/-- Converts archives, one after the other, the first of them the `index`-th of `count`. -/
def convertAll (c : Converter) (out : Path) (count index : Nat) :
    List Path → Step World (List ArchiveReport)
  | [] => return []
  | archive :: r => do
    c.config.ifVerbose (World.tell (.openingCourse index count archive.name))
    let outcome ← World.attempt (convert c archive out)
    match outcome with
    | .ok _ => pure ()
    | .error e => c.config.ifVerbose (World.tell (.failedCourse archive.name e.message))
    return ⟨archive.name, outcome.mapError Failure.message⟩ ::
      (← convertAll c out count (index + 1) r)

/-- Converts every archive that a path stands for. -/
def convertBatch (c : Converter) (input out : Path) : Step World (List ArchiveReport) := do
  let archives ← World.reading (ExceptT.mk (pure (Archive.find (← World.getDisk) input)))
  World.change (ensureDirectories out)
  c.config.ifVerbose (World.tell (.foundArchives archives.length))
  let reports ← convertAll c out archives.length 1 archives
  let succeeded := (reports.filter (·.success)).length
  c.config.ifVerbose (World.tell (.completed succeeded (reports.length - succeeded)))
  return reports

end Printing

end Coursebook
