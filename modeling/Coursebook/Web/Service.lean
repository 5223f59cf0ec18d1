import Coursebook.Archive.Zip
import Coursebook.Conversion.Convert
import Coursebook.Web.Response
import Coursebook.Web.Route
import Coursebook.Web.UploadName

/-!
# Coursebook — the service

A service that takes course archives, converts each into a directory of its own among its outputs,
and keeps the result as a zip archive beside that directory for download. What it is sent does not
stay on its disk.
-/

namespace Coursebook.Web

open Coursebook.Files

/-- A file that comes with a request. -/
structure Upload where
  /-- The name the client has given it. -/
  name : String
  content : Content
  deriving DecidableEq, Repr

/-- A request. -/
structure Request where
  method : Method := .get
  target : String
  upload : Option Upload := none
  deriving DecidableEq, Repr

/-- The directories of a service. -/
structure Site where
  uploads : Path := .ofString "uploads"
  outputs : Path := .ofString "outputs"
  deriving DecidableEq, Repr

/-- Why an upload cannot be converted. -/
inductive UploadError where
  | conversion (e : Failure)
  /-- What an earlier upload has left cannot be removed. -/
  | notCleared (e : FileError)
  deriving DecidableEq, Repr

/-- Why an upload cannot be converted, in words. -/
def UploadError.message : UploadError → String
  | .conversion e => e.message
  | .notCleared e => e.fault.describe (objectText e.path)

/-- What breaks a request off without an answer. -/
inductive Breakdown where
  | file (e : FileError)
  /-- A name with a line break cannot be given with a download. -/
  | lineBreak
  deriving DecidableEq, Repr

/-- What breaks a request off, in words. -/
def Breakdown.message : Breakdown → String
  | .file e => e.message
  | .lineBreak => "Header values must not contain newline characters."

/-- What is done about an upload. -/
abbrev Converting := ExceptT UploadError (StateM World)

/-- What is done about a request. -/
abbrev Answering := ExceptT Breakdown (StateM World)

/-- Takes a step of a conversion. -/
def Converting.take {α : Type} (x : Step World α) : Converting α := ExceptT.adapt .conversion x

/-- Changes the disk. -/
def Answering.change {α : Type} (x : Change α) : Answering α := fun w =>
  let (result, disk) := x.run w.disk
  (result.mapError .file, { w with disk })

/-- Does what an upload asks for; the result says why that failed. -/
def Answering.attempt {α : Type} (x : Converting α) : Answering (Except UploadError α) := fun w =>
  let (result, w) := x.run w
  (.ok result, w)

/-- The upload that is taken, or why there is none. -/
def takeUpload : Option Upload → Except Refusal Upload
  | none => .error .noFile
  | some u =>
    if u.name = "" then .error .noName
    else if Archive.hasSuffix u.name then .ok u
    else .error .notArchive

/-- Removes a directory with all below it, if there is anything. -/
def clearDirectory (directory : Path) : Converting Unit := do
  let d := (← get).disk
  if ← Converting.take (World.ask (·.has directory)) then
    if ← Converting.take (World.ask (·.isDirectory directory)) then
      modify fun w => { w with disk := d.remove directory }
    else throw (.notCleared ⟨.notDirectory, directory⟩)

namespace Site

/-- Where an upload is kept while it is converted. -/
def archivePath (s : Site) (u : Upload) : Path := s.uploads.child (safeName u.name)

/-- Where the course in an upload is converted to. -/
def coursePath (s : Site) (u : Upload) : Path :=
  Converter.courseDirectory s.outputs (s.archivePath u)

/-- The name of the zip archive of the course in an upload. -/
def zipName (s : Site) (u : Upload) : String :=
  s!"{Archive.courseName (s.archivePath u)}_liascript.zip"

/-- Converts the course in an upload and keeps the result as a zip archive. -/
def convert (s : Site) (u : Upload) : Converting Report := do
  let archive := s.archivePath u
  Converting.take (World.change (write archive u.content))
  clearDirectory (s.coursePath u)
  let report ← Converting.take ((Converter.standard {}).convert archive s.outputs)
  let entries := Archive.zipEntries (← get).disk (s.coursePath u)
  Converting.take (World.change (write (s.outputs.child (s.zipName u)) (.zip entries)))
  return report

/-- Converts the course in an upload, which is gone afterwards. -/
def answerUpload (s : Site) (u : Upload) : Answering Response := do
  Answering.change (ensureDirectories s.uploads)
  Answering.change (ensureDirectories s.outputs)
  let outcome ← Answering.attempt (s.convert u)
  Answering.change (removeFile (s.archivePath u))
  match outcome with
  | .ok report => return .converted (s.archivePath u).name report (s.zipName u)
  | .error e => return .failed e.message

/-- Answers a request for a download. -/
def answerDownload (s : Site) (d : Disk) (name : String) : Except Breakdown Response :=
  let path := s.outputs.child (safeName name)
  match d.has path with
  | .ok true =>
    if name.contains '\n' || name.contains '\r' then .error .lineBreak
    else (d.read path |>.mapError .file).map (.file name)
  | _ => .ok .noFile

/-- Answers a request. -/
def answer (s : Site) (r : Request) : Answering Response := do
  match lead r.method r.target with
  | .moved => return .moved
  | .nowhere => return .nowhere
  | .notAllowed => return .notAllowed
  | .to .start => return .startPage
  | .to .health => return .healthy
  | .to .asset => return .nowhere
  | .to .convert =>
    match takeUpload r.upload with
    | .ok u => s.answerUpload u
    | .error reason => return .refused reason
  | .to (.download name) => ExceptT.mk (pure (s.answerDownload (← get).disk name))

end Site

end Coursebook.Web
