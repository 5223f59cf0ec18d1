import Coursebook.Archive.Gzip
import Coursebook.Files.Fault

/-!
# Coursebook — faults of archives

Why archives cannot be found, read or unpacked.
-/

namespace Coursebook.Archive

open Coursebook.Files

/-- Why there is no header of a member where one should be. -/
inductive HeaderFault where
  | nothing
  | endMark
  | cutShort
  | invalid
  | wrongSum
  deriving DecidableEq, Repr

/-- Why there is no header, in words. -/
def HeaderFault.message : HeaderFault → String
  | .nothing => "empty header"
  | .endMark => "end of file header"
  | .cutShort => "truncated header"
  | .invalid => "invalid header"
  | .wrongSum => "bad checksum"

/-- Why the octets of a file are no archive. -/
inductive FormatFault where
  | emptyFile
  | notCompressed
  | header (e : HeaderFault)
  /-- The last member is longer than the archive. -/
  | endOfData
  | compressed (e : GzipFault)
  deriving DecidableEq, Repr

/-- Why the octets of a file are no archive, in words. -/
def FormatFault.message : FormatFault → String
  | .emptyFile => "empty file"
  | .notCompressed => "not a gzip file"
  | .header e => e.message
  | .endOfData => "unexpected end of data"
  | .compressed e => e.message

/-- Why an archive cannot be unpacked. -/
inductive UnpackFault where
  | file (e : FileError)
  | format (e : FormatFault)
  deriving DecidableEq, Repr

/-- Why an archive cannot be unpacked, in words. -/
def UnpackFault.message : UnpackFault → String
  | .file e => e.message
  | .format e => e.message

/-- Why an archive is of no use. -/
inductive ArchiveError where
  /-- There is nothing at the path that was given. -/
  | noInput (path : Path)
  /-- The file that was given has not the name of an archive. -/
  | notArchive (path : Path)
  /-- There are no archives in the directory that was given. -/
  | noArchives (path : Path)
  /-- An archive cannot be unpacked. -/
  | unpack (name : String) (fault : UnpackFault)
  deriving DecidableEq, Repr

/-- Why an archive is of no use, in words. -/
def ArchiveError.message : ArchiveError → String
  | .noInput path => s!"Input path does not exist: {path}"
  | .notArchive path => s!"Input file must be a .tar.gz file: {path}"
  | .noArchives path => s!"Input directory contains no .tar.gz files: {path}"
  | .unpack name fault => s!"Failed to extract course {name}: {fault.message}"

end Coursebook.Archive
