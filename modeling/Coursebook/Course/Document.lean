import Coursebook.Conversion.Step
import Coursebook.Course.Outline
import Coursebook.Course.Registry

/-!
# Coursebook — the document of a course

The Markdown document that is made from the outline of a course. Every component is loaded and
written where the outline comes to it. One that fails leaves a placeholder and is kept in the tally,
and the document goes on.
-/

namespace Coursebook.Course

open Coursebook.Files

/-- A component that could not be written. -/
structure FailedComponent where
  kind : String
  id : String
  /-- What was wrong. -/
  error : String
  deriving DecidableEq, Repr

/-- What has become of the components so far. -/
structure Tally where
  /-- The number of components that the outline has come to. -/
  count : Nat := 0
  /-- Those that could not be written, in order. -/
  failed : List FailedComponent := []
  deriving DecidableEq, Repr

/-- How far a document has come. -/
structure Progress where
  tally : Tally := {}
  notices : List Notice := []
  deriving Repr

/-- A step in the making of a document. -/
abbrev Writing := Step Progress

/-- Lines one below the other. -/
def joinLines (lines : List String) : String := "\n".intercalate lines

/-- What stands in the place of a component that could not be written. -/
def placeholder (index : Nat) (message : String) : List String :=
  [s!"#### Learning Content {index}\n", s!"*Content temporarily unavailable: {message}*\n\n---\n"]

/-- Counts a component. -/
def Progress.counted (p : Progress) : Progress :=
  { p with tally := { p.tally with count := p.tally.count + 1 } }

/-- Keeps a component that could not be written. -/
def Progress.withFailed (p : Progress) (ref : Reference) (message : String) : Progress :=
  { tally := { p.tally with failed := p.tally.failed ++ [⟨ref.kind, ref.id, message⟩] },
    notices := p.notices ++ [.failedComponent ref.kind ref.id message] }

/-- What a document is made with. -/
structure Source where
  registry : Registry
  disk : Disk
  /-- The directory of the course. -/
  root : Path

/-- The text of a component. -/
def Source.componentText (s : Source) (ref : Reference) : Load String := do
  s.registry.render (← s.registry.load s.disk s.root ref)

/-- The lines of a component, the `index`-th of its vertical. -/
def Source.componentLines (s : Source) (index : Nat) (ref : Reference) : Writing (List String) := do
  modify (·.counted)
  match s.componentText ref with
  | .ok text => return [text]
  | .error e =>
    if e.isLeaf then do
      modify (·.withFailed ref e.message)
      return placeholder index e.message
    else throw e

/-- The lines of components, the first of them the `index`-th of its vertical. -/
def Source.componentsLines (s : Source) (index : Nat) : List Reference → Writing (List String)
  | [] => return []
  | ref :: r => do
    let lines ← s.componentLines index ref
    return lines ++ (← s.componentsLines (index + 1) r)

/-- The lines of verticals, which have no heading. -/
def Source.verticalsLines (s : Source) : List Vertical → Writing (List String)
  | [] => return []
  | v :: r => do
    let lines ← s.componentsLines 1 v.components
    return lines ++ (← s.verticalsLines r)

/-- The text of each sequential. -/
def Source.sequentialTexts (s : Source) : List Sequential → Writing (List String)
  | [] => return []
  | q :: r => do
    let lines ← s.verticalsLines q.verticals
    return joinLines (s!"### {q.title}\n" :: lines) :: (← s.sequentialTexts r)

/-- The text of each chapter. -/
def Source.chapterTexts (s : Source) : List Chapter → Writing (List String)
  | [] => return []
  | c :: r => do
    let texts ← s.sequentialTexts c.sequentials
    return joinLines (s!"## {c.title}\n" :: texts ++ ["\n---\n"]) :: (← s.chapterTexts r)

/-- The lines that a document starts with. -/
def headerLines (config : Config) (title : String) : List String :=
  ["---", s!"author: {config.author}", s!"email: {config.email}", "---", "", s!"# {title}\n"]

/-- The lines that a document ends with. -/
def footerLines : List String := ["\n---\n", "*Course conversion completed*\n"]

/-- The document of a course. The course is in the directory given, else in the one that the outline
was read from. -/
def writeDocument (config : Config) (registry : Registry) (d : Disk) (o : Outline)
    (root : Option Path) : Writing String := do
  match root <|> o.root with
  | none => throw .noRoot
  | some root =>
    let texts ← (Source.mk registry d root).chapterTexts o.chapters
    return joinLines (headerLines config o.title ++ texts ++ footerLines)

end Coursebook.Course
