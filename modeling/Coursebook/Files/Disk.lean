import Coursebook.Files.Fault
import Coursebook.Files.Tree
import Coursebook.Text.Utf8

/-!
# Coursebook — reading from a disk

A disk is a file tree seen from a working directory. A path leads from the working directory or the
root from name to name; each name but the last has to be that of a directory, and `..` goes back to
the directory around.

* `Disk.locate` gives the location that a path leads to, whether or not something stands there.
* `has`, `isFile` and `isDirectory` answer questions about a path. A path that leads nowhere gives
  the answer no, but a name that is too long is a fault.
-/

namespace Coursebook.Files

/-- A file tree and the working directory in it. -/
structure Disk where
  tree : Tree := {}
  /-- The working directory. -/
  here : Location := []
  deriving Repr

/-- Whether a name is longer than a directory can hold. -/
def isLongName (name : String) : Bool := 255 < name.utf8ByteSize

/-- Whether a written path is longer than the system takes. -/
def isLongPath (path : String) : Bool := 4096 ≤ path.utf8ByteSize

/-- The location that names lead to from another one. -/
def Tree.walk (t : Tree) (l : Location) : List String → Except FileFault Location
  | [] => .ok l
  | name :: r =>
    match t.find? l with
    | none => .error .missing
    | some (.file _) => .error .notDirectory
    | some .directory =>
      if name = ".." then t.walk l.dropLast r
      else if isLongName name then .error .nameTooLong
      else t.walk (l ++ [name]) r

namespace Disk

/-- Where the names of a path start. -/
def start (d : Disk) (p : Path) : Location :=
  match p.root with
  | .relative => d.here
  | _ => []

/-- The location that a path leads to. -/
def locate (d : Disk) (p : Path) : Except FileFault Location :=
  if (toString p).contains '\x00' then .error .nullCharacter
  else if isLongPath (toString p) then .error .nameTooLong
  else d.tree.walk (d.start p) p.names

/-- What stands where a path leads. -/
def entry (d : Disk) (p : Path) : Except FileFault Entry := do
  match d.tree.find? (← d.locate p) with
  | some e => .ok e
  | none => .error .missing

/-- Answers a question about what a path leads to; of what is not there the answer is no. -/
def ask (d : Disk) (p : Path) (question : Entry → Bool) : Except FileError Bool :=
  match d.entry p with
  | .ok e => .ok (question e)
  | .error .nameTooLong => .error ⟨.nameTooLong, p⟩
  | .error _ => .ok false

/-- Whether there is anything. -/
def has (d : Disk) (p : Path) : Except FileError Bool := d.ask p fun _ => true

/-- Whether there is a file. -/
def isFile (d : Disk) (p : Path) : Except FileError Bool := d.ask p (· != .directory)

/-- Whether there is a directory. -/
def isDirectory (d : Disk) (p : Path) : Except FileError Bool := d.ask p (· == .directory)

/-- What the file at a path holds. -/
def read (d : Disk) (p : Path) : Except FileError Content :=
  match d.entry p with
  | .ok (.file c) => .ok c
  | .ok .directory => .error ⟨.isDirectory, p⟩
  | .error fault => .error ⟨fault, p⟩

/-- What stands in the directory at a path, with its names; nothing where there is none. -/
def list (d : Disk) (p : Path) : List (String × Entry) :=
  match d.locate p with
  | .ok l => d.tree.inDirectory l
  | .error _ => []

/-- What stands anywhere below the directory at a path, with the names that lead there. -/
def listAll (d : Disk) (p : Path) : List (List String × Entry) :=
  match d.locate p with
  | .ok l => (d.tree.below l).map fun (k, e) => (k.drop l.length, e)
  | .error _ => []

end Disk

/-- A text with all line ends written as line feeds. -/
def unifyLines : List Char → List Char
  | '\r' :: '\n' :: r => '\n' :: unifyLines r
  | '\r' :: r => '\n' :: unifyLines r
  | c :: r => c :: unifyLines r
  | [] => []

/-- The text of a file. -/
def Content.text (c : Content) : Except Text.Utf8Error String :=
  (Text.utf8Decode c.bytes).map fun s => .ofList (unifyLines s)

/-- Whether names come before others in the order of names. -/
def namesLe (a b : List String) : Bool := !decide (b < a)

end Coursebook.Files
