import Coursebook.Text.CodeSet

/-!
# Coursebook — paths

A path is an optional root and the names below it. Empty names and `.` carry no meaning and are
dropped when a path is read, `..` is kept. Two leading slashes are a root of their own.
-/

namespace Coursebook.Files

/-- Where a path starts. -/
inductive PathRoot where
  /-- At the working directory. -/
  | relative
  /-- At the root directory, written `/`. -/
  | slash
  /-- At the root directory, written `//`. -/
  | doubleSlash
  deriving DecidableEq, Repr

/-- A path to a file or directory. -/
structure Path where
  /-- Where the path starts. -/
  root : PathRoot := .relative
  /-- The names from there on. -/
  names : List String := []
  deriving DecidableEq, Repr

namespace Path

/-- The root that a written path starts at. -/
def rootOf : List Char → PathRoot
  | '/' :: '/' :: '/' :: _ => .slash
  | '/' :: '/' :: _ => .doubleSlash
  | '/' :: _ => .slash
  | _ => .relative

/-- The names of a written path. -/
def namesOf (s : String) : List String :=
  (Text.splitAll '/' s.toList).filterMap fun n =>
    if n = [] ∨ n = ['.'] then none else some (.ofList n)

/-- Reads a written path. -/
def ofString (s : String) : Path := ⟨rootOf s.toList, namesOf s⟩

/-- The written form of a root. -/
def rootText : PathRoot → String
  | .relative => ""
  | .slash => "/"
  | .doubleSlash => "//"

/-- Writes a path; the working directory is `.`. -/
protected def toString (p : Path) : String :=
  match p.root, p.names with
  | .relative, [] => "."
  | root, names => rootText root ++ "/".intercalate names

instance : ToString Path := ⟨Path.toString⟩

/-- The path `q` as seen from `p`: `q` itself where it has a root. -/
def join (p q : Path) : Path :=
  match q.root with
  | .relative => ⟨p.root, p.names ++ q.names⟩
  | _ => q

/-- The path that a text writes, as seen from `p`. -/
def child (p : Path) (s : String) : Path := p.join (ofString s)

/-- The last name of a path, empty where there is none. -/
def name (p : Path) : String := p.names.getLastD ""

/-- The path without its last name. -/
def parent (p : Path) : Path := ⟨p.root, p.names.dropLast⟩

/-- The root, if there is one, and the names, in order. -/
def parts (p : Path) : List String :=
  match p.root with
  | .relative => p.names
  | root => rootText root :: p.names

end Path

end Coursebook.Files
