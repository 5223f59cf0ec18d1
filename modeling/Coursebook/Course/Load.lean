import Coursebook.Conversion.Failure
import Coursebook.Files.Disk
import Coursebook.Xml.Document

/-!
# Coursebook — loading components

Where the files of a component are, and how the component is read from them. A component of a kind
`k` with the id `i` is kept in the directory `k` of its course, under the name `i` with an ending;
the page about the course is the first one in its directory unless there is an overview.
-/

namespace Coursebook.Course

open Coursebook.Files

/-- What the loading of a component gives. -/
abbrev Load := Except Failure

/-- The answer to a question about a disk. -/
def ofDisk {α : Type} (x : Except FileError α) : Load α := x.mapError .file

/-- Reads an XML document. -/
def readXml (d : Disk) (p : Path) : Load Xml.Element := do
  let content ← ofDisk (d.read p)
  (Xml.Element.read content.bytes false).mapError (.xml p)

/-- Reads the XML document of a component. -/
def readComponentXml (d : Disk) (p : Path) (id : String) : Load Xml.Element :=
  (readXml d p).mapError fun
    | .xml _ (.malformed fault position) => .component (.malformed id p fault position)
    | e => e

/-- Reads the text of a page. -/
def readText (d : Disk) (p : Path) : Load String := do
  let content ← ofDisk (d.read p)
  content.text.mapError .text

/-- Fails unless a file of a component is there. -/
def needFile (d : Disk) (file : ComponentFile) (p : Path) : Load Unit := do
  if !(← ofDisk (d.has p)) then .error (.component (.missing file p))

/-- The file of a component with an ending. -/
def componentPath (root : Path) (directory id ending : String) : Path :=
  (root.child directory).child (id ++ ending)

/-- Loads a page. -/
def loadHtml (d : Disk) (root : Path) (ref : Reference) : Load Component := do
  let metadata := componentPath root "html" ref.id ".xml"
  let body := componentPath root "html" ref.id ".html"
  needFile d .htmlMetadata metadata
  needFile d .htmlBody body
  let e ← readComponentXml d metadata ref.id
  .ok (.ofHtml e (← readText d body) ref)

/-- Loads a problem. -/
def loadProblem (d : Disk) (root : Path) (ref : Reference) : Load Component := do
  let p := componentPath root "problem" ref.id ".xml"
  needFile d .problem p
  (Component.ofProblem (← readComponentXml d p ref.id) ref).mapError (.component ∘ .wrongRoot)

/-- Loads a video. -/
def loadVideo (d : Disk) (root : Path) (ref : Reference) : Load Component := do
  let p := componentPath root "video" ref.id ".xml"
  needFile d .video p
  (Component.ofVideo (← readComponentXml d p ref.id) ref).mapError (.component ∘ .wrongRoot)

/-- The pages in a directory, in the order of their names. -/
def pagesIn (d : Disk) (directory : Path) : List Path :=
  let pages := (d.list directory).filterMap fun (name, e) =>
    if e != .directory && ".html".toList.isSuffixOf name.toList then some name else none
  (pages.mergeSort fun a b => decide (a ≤ b)).map fun name => directory.join ⟨.relative, [name]⟩

/-- The page about the course in a directory. -/
def aboutPage? (d : Disk) (directory : Path) : Load (Option Path) := do
  let overview := directory.child "overview.html"
  if ← ofDisk (d.isFile overview) then .ok (some overview)
  else .ok (pagesIn d directory).head?

/-- Loads the page about the course. -/
def loadAbout (d : Disk) (root : Path) (ref : Reference) : Load Component := do
  let directory := root.child "about"
  if !(← ofDisk (d.isDirectory directory)) then
    .error (.component (.missing .aboutDirectory directory))
  match ← aboutPage? d directory with
  | none => .error (.component (.missing .aboutPage directory))
  | some page => .ok (.ofAbout (← readText d page) ref.displayName)

end Coursebook.Course
