import Coursebook.Conversion.Report
import Coursebook.Web.MediaType
import Coursebook.Web.Disposition

/-!
# Coursebook — responses

What the service answers, with the status and the media type of each answer.
-/

namespace Coursebook.Web

open Coursebook.Files

/-- Why an upload is not taken. -/
inductive Refusal where
  | noFile
  | noName
  | notArchive
  deriving DecidableEq, Repr

/-- Why an upload is not taken, in words. -/
def Refusal.message : Refusal → String
  | .noFile => "No file uploaded"
  | .noName => "No file selected"
  | .notArchive => "File must be .tar.gz"

/-- What the service answers. -/
inductive Response where
  | startPage
  | healthy
  /-- The course has been converted; its zip archive has a name. -/
  | converted (source : String) (report : Report) (zip : String)
  | refused (reason : Refusal)
  /-- The course cannot be converted. -/
  | failed (message : String)
  /-- A file, under the name that was asked for. -/
  | file (name : String) (content : Content)
  | noFile
  | moved
  | nowhere
  | notAllowed
  deriving DecidableEq, Repr

namespace Response

/-- The status of an answer. -/
def status : Response → Nat
  | startPage | healthy | converted .. | file .. => 200
  | moved => 308
  | refused _ => 400
  | noFile | nowhere => 404
  | notAllowed => 405
  | failed _ => 500

/-- The media type of an answer. -/
def mediaType : Response → String
  | startPage | moved | nowhere | notAllowed => "text/html"
  | healthy | converted .. | refused _ | failed _ | noFile => "application/json"
  | file name _ => Web.mediaType name

/-- The message in an answer that has one. -/
def message? : Response → Option String
  | refused reason => some reason.message
  | failed message => some message
  | noFile => some "File not found"
  | _ => none

end Response

/-- Where a zip archive can be fetched from. -/
def downloadTarget (zip : String) : String := s!"/download/{zip}"

end Coursebook.Web
