import Coursebook.Course.Document

/-!
# Coursebook — reports

What a conversion has made of a course.
-/

namespace Coursebook

open Course Files

/-- How much there is in a course. -/
structure Statistics where
  chapters : Nat
  sequentials : Nat
  verticals : Nat
  components : Nat
  failedComponents : Nat
  media : Nat
  deriving DecidableEq, Repr

/-- What a conversion has made of a course. -/
structure Report where
  title : String
  id : String
  statistics : Statistics
  /-- The number of components of each kind that could not be written, in the order in which the
  kinds came up. -/
  failed : List (String × Nat)
  markdownFile : Path
  deriving DecidableEq, Repr

namespace Report

/-- The directory that holds the converted course. -/
def directory (r : Report) : Path := r.markdownFile.parent

/-- The number of components of each kind. -/
def countKinds (failed : List FailedComponent) : List (String × Nat) :=
  (failed.map (·.kind)).eraseDups.map fun kind => (kind, (failed.filter (·.kind == kind)).length)

/-- The report on a course. -/
def ofCourse (o : Outline) (tally : Tally) (markdownFile : Path) (media : Nat) : Report where
  title := o.title
  id := o.id
  statistics :=
    { chapters := o.chapters.length
      sequentials := o.sequentials.length
      verticals := o.verticals.length
      components := tally.count
      failedComponents := tally.failed.length
      media }
  failed := countKinds tally.failed
  markdownFile

end Report

/-- What a conversion has made of an archive. -/
structure ArchiveReport where
  /-- The file name of the archive. -/
  source : String
  /-- The report on the course in it, or why there is none. -/
  outcome : Except String Report

namespace ArchiveReport

/-- Whether the course has been converted. -/
def success (r : ArchiveReport) : Bool :=
  match r.outcome with
  | .ok _ => true
  | .error _ => false

/-- Why the course has not been converted. -/
def error? (r : ArchiveReport) : Option String :=
  match r.outcome with
  | .ok _ => none
  | .error message => some message

/-- The directory that holds the converted course, if it has been converted. -/
def directory? (r : ArchiveReport) : Option Path :=
  match r.outcome with
  | .ok report => some report.directory
  | .error _ => none

end ArchiveReport

end Coursebook
