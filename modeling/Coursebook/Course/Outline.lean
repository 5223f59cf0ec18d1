import Coursebook.Conversion.Step
import Coursebook.Course.Load

/-!
# Coursebook — the outline of a course

A course consists of chapters, these of sequentials, these of verticals, and a vertical refers to
components. Each part is described by a file of its own, named by the part around it. A part whose
file is missing stays in the outline, without anything in it.
-/

namespace Coursebook.Course

open Coursebook.Files

/-- A part of a sequential: references to components. -/
structure Vertical where
  id : String
  title : String
  components : List Reference := []
  deriving DecidableEq, Repr

/-- A part of a chapter. -/
structure Sequential where
  id : String
  title : String
  verticals : List Vertical := []
  deriving DecidableEq, Repr

/-- A part of a course. -/
structure Chapter where
  id : String
  title : String
  sequentials : List Sequential := []
  deriving DecidableEq, Repr

/-- The outline of a course. -/
structure Outline where
  id : String
  title : String
  chapters : List Chapter := []
  /-- The directory that the outline was read from. -/
  root : Option Path := none
  deriving DecidableEq, Repr

namespace Outline

/-- The sequentials of all chapters. -/
def sequentials (o : Outline) : List Sequential := o.chapters.flatMap (·.sequentials)

/-- The verticals of all chapters. -/
def verticals (o : Outline) : List Vertical := o.sequentials.flatMap (·.verticals)

end Outline

/-- Takes over what loading gives. -/
def Reading.ofLoad {α : Type} (x : Load α) : Reading α := ExceptT.mk (pure x)

/-- The ids of the parts of a kind that an element refers to. -/
def partIds (e : Xml.Element) (level : String) : List String :=
  (e.childrenNamed level).filterMap (·.filled? "url_name")

/-- The title of a part with a file. -/
def partTitle (e : Xml.Element) (id : String) : String := (e.filled? "display_name").getD id

/-- The title of a part without a file. -/
def missingTitle (level id : String) : String := s!"Missing {level} {id}"

/-- The file of a part. -/
def partPath (root : Path) (level id : String) : Path := componentPath root level id ".xml"

/-- Reads the parts of a level, one after the other; `make` makes one from its id, its title and
what is in it, and `inside` reads the latter. -/
def readParts {α β : Type} (d : Disk) (root : Path) (level : String)
    (make : String → String → List β → α) (inside : Xml.Element → Reading (List β)) :
    List String → Reading (List α)
  | [] => return []
  | id :: r => do
    let path := partPath root level id
    let part ←
      if ← Reading.ofLoad (ofDisk (d.has path)) then do
        let e ← Reading.ofLoad (readXml d path)
        pure (make id (partTitle e id) (← inside e))
      else do
        Reading.tell (.missingPart level path)
        pure (make id (missingTitle level id) [])
    return part :: (← readParts d root level make inside r)

/-- Reads the verticals that an element refers to. -/
def readVerticals (d : Disk) (root : Path) (kinds : List String) (e : Xml.Element) :
    Reading (List Vertical) :=
  readParts d root "vertical" .mk (fun e => pure (collect kinds e)) (partIds e "vertical")

/-- Reads the sequentials that an element refers to. -/
def readSequentials (d : Disk) (root : Path) (kinds : List String) (e : Xml.Element) :
    Reading (List Sequential) :=
  readParts d root "sequential" .mk (readVerticals d root kinds) (partIds e "sequential")

/-- Reads the chapters that an element refers to. -/
def readChapters (d : Disk) (root : Path) (kinds : List String) (e : Xml.Element) :
    Reading (List Chapter) :=
  readParts d root "chapter" .mk (readSequentials d root kinds) (partIds e "chapter")

/-- The element that describes a course in full: that of the file which the element of `course.xml`
names, if there is one. -/
def describingElement (d : Disk) (root : Path) (e : Xml.Element) : Load Xml.Element :=
  match e.filled? "url_name" with
  | none => .ok e
  | some name => do
    let path := partPath root "course" name
    if ← ofDisk (d.has path) then readXml d path else .ok e

/-- The title of a course. -/
def courseTitle (top full : Xml.Element) : String :=
  ((full.filled? "display_name") <|> (top.filled? "url_name")).getD "Untitled Course"

/-- The id of a course. -/
def courseId (top full : Xml.Element) : String :=
  ((full.filled? "course") <|> (top.filled? "course") <|> (top.filled? "url_name")).getD "unknown"

/-- The file that a course starts with. -/
def coursePath (root : Path) : Path := root.child "course.xml"

/-- Reads the outline of the course in a directory, with the components of some kinds. -/
def readOutline (d : Disk) (root : Path) (kinds : List String) : Reading Outline := do
  let path := coursePath root
  if !(← Reading.ofLoad (ofDisk (d.has path))) then throw (.noCourse path)
  let top ← Reading.ofLoad (readXml d path)
  let full ← Reading.ofLoad (describingElement d root top)
  let title := courseTitle top full
  let chapters ← readChapters d root kinds full
  Reading.tell (.readCourse title chapters.length)
  return { id := courseId top full, title, chapters, root := some root }

/-- The directory of a course, which has to hold `course.xml`. -/
def resolveRoot (d : Disk) (directory : Path) : Load Path := do
  if ← ofDisk (d.has (coursePath directory)) then .ok directory
  else .error (.noCourseIn directory)

end Coursebook.Course
