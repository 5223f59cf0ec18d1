import Coursebook.Archive.Member

/-!
# Coursebook — contents of files

What a regular file holds. Archives that this library works on are kept as what is in them, since
nothing here depends on how their members are laid out in octets.
-/

namespace Coursebook.Files

/-- An entry of a zip archive: its name, and what it holds; a directory holds nothing. -/
structure ZipEntry where
  name : String
  octets : Option (List UInt8)
  deriving DecidableEq, Repr

/-- What a regular file holds. -/
inductive Content where
  | octets (bytes : List UInt8)
  /-- A compressed tape archive. -/
  | archive (members : List Archive.Member)
  | zip (entries : List ZipEntry)
  deriving DecidableEq, Repr

/-- The first octets of a compressed file. -/
def gzipMark : List UInt8 := [0x1f, 0x8b]

/-- The first octets of a zip archive. -/
def zipMark : List UInt8 := [0x50, 0x4b, 0x03, 0x04]

/-- The octets of a file; of an archive, those by which its kind is recognised. -/
def Content.bytes : Content → List UInt8
  | .octets b => b
  | .archive _ => gzipMark
  | .zip _ => zipMark

/-- The content of a file with a text. -/
def Content.ofText (s : String) : Content := .octets s.toUTF8.toList

end Coursebook.Files
