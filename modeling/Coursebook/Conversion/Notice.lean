import Coursebook.Files.Path

/-!
# Coursebook — notices

What a conversion tells about its progress to those who want to know.
-/

namespace Coursebook

open Files

/-- A piece of news about a conversion. -/
inductive Notice where
  | readingCourse
  | converting
  | writing
  /-- A file that describes a part of the course is not there. -/
  | missingPart (level : String) (path : Path)
  | readCourse (title : String) (chapters : Nat)
  | failedComponent (kind id message : String)
  | wroteMarkdown (path : Path)
  | noStaticFiles
  | failedCopy (name message : String)
  | copiedMedia (count : Nat) (directory : Path)
  | unpacked (directory : Path)
  | openingArchive (name : String)
  | foundArchives (count : Nat)
  | openingCourse (index count : Nat) (name : String)
  | failedCourse (name message : String)
  | completed (succeeded failed : Nat)
  deriving DecidableEq, Repr

/-- A line that sets off a heading. -/
def ruler : String := .ofList (List.replicate 60 '=')

/-- The words for a notice. -/
def Notice.text : Notice → String
  | .readingCourse => "\nStep 1: Parsing course structure..."
  | .converting => "\nStep 2: Converting to LiaScript Markdown..."
  | .writing => "\nStep 3: Writing course.md and media..."
  | .missingPart level path => s!"   ⚠️  Missing {level} file: {path}"
  | .readCourse title chapters => s!"   Parsed: {title} ({chapters} chapters)"
  | .failedComponent kind id message =>
    s!"   ⚠️  Failed to process component {kind} ({id}): {message}"
  | .wroteMarkdown path => s!"   📝 Wrote {path}"
  | .noStaticFiles => "     No static directory found"
  | .failedCopy name message => s!"   ⚠️  Failed to copy media file {name}: {message}"
  | .copiedMedia count directory => s!"    Copied {count} media files to {directory}"
  | .unpacked directory => s!"   Extracted to: {directory}"
  | .openingArchive name => s!"{ruler}\nConverting {name}\n{ruler}"
  | .foundArchives count => s!"Found {count} course(s) to process"
  | .openingCourse index count name => s!"\nProcessing course {index}/{count}: {name}"
  | .failedCourse name message => s!"   ❌ Failed to process {name}: {message}"
  | .completed succeeded failed =>
    s!"\nConversion completed: {succeeded} successful, {failed} failed"

end Coursebook
