import Coursebook.Media.Assets
import Coursebook.Proofs.Files.Name
import Coursebook.Proofs.Files.Walk
import Coursebook.Proofs.Media.Tokens

/-!
# Coursebook — the names of copies

The name of a copy consists of safe characters, so it is one name in whatever directory it is put,
never a path. Still it need not be the name of a file: of a path without a safe character nothing is
left, and dots alone lead to a directory.

* `not_mem_copyName` — safe characters only.
* `child_copyName` — where a copy goes, if its name is that of a file.
-/

namespace Coursebook.Media

open Coursebook.Files Coursebook.Text

theorem not_mem_copyName {c : Char} (hc : isSafe c = false) (names : List String) :
    c ∉ (copyName names).toList := by
  rw [copyName, String.toList_ofList]
  intro h
  rw [isSafe_of_mem_mediaName h] at hc
  cases hc

/-- The text of a single name is a path of that name; two texts are the directory itself. -/
theorem ofString_of_no_slash {name : String} (hSlash : '/' ∉ name.toList) :
    Path.ofString name = ⟨.relative, if name = "" ∨ name = "." then [] else [name]⟩ := by
  have hRoot : Path.rootOf name.toList = .relative := by
    cases hChars : name.toList with
    | nil => rfl
    | cons c r =>
      have hc : c ≠ '/' := by
        rintro rfl
        exact hSlash (hChars ▸ List.mem_cons_self)
      unfold Path.rootOf
      split <;> simp_all
  have hNil : name.toList = [] ↔ name = "" := String.toList_eq_nil_iff
  have hHere : name.toList = ['.'] ↔ name = "." := by
    rw [← String.toList_inj]
    rfl
  rw [Path.ofString, hRoot, Path.namesOf, splitAll_of_not_mem hSlash]
  by_cases h : name = "" ∨ name = "."
  · simp [hNil, hHere, h]
  · simp [hNil, hHere, h]

/-- A name without a slash leads at most one name further. -/
theorem child_of_no_slash (p : Path) {name : String} (hSlash : '/' ∉ name.toList) :
    p.child name = p.below (if name = "" ∨ name = "." then [] else [name]) := by
  rw [Path.child, ofString_of_no_slash hSlash]

theorem child_of_isName (p : Path) {name : String} (h : IsName name) :
    p.child name = p.below [name] := by
  rw [child_of_no_slash p h.slash, if_neg (not_or.mpr ⟨h.ne_empty, h.ne_here⟩)]

/-- The texts that name no file: the empty one, the directory itself and the one around it. -/
def degenerateNames : List String := ["", ".", ".."]

/-- A copy goes right into the directory, if its name can be that of a file. -/
theorem child_copyName (p : Path) {names : List String} (h : copyName names ∉ degenerateNames) :
    p.child (copyName names) = p.below [copyName names] := by
  rw [degenerateNames, List.mem_cons, List.mem_cons, not_or, not_or] at h
  rw [child_of_no_slash p (not_mem_copyName (by decide) names), if_neg (not_or.mpr ⟨h.1, h.2.1⟩)]

/-- The name of a copy is that of a file, unless it is degenerate or too long. -/
theorem isName_copyName {names : List String} (h : copyName names ∉ degenerateNames)
    (hShort : isLongName (copyName names) = false) : IsName (copyName names) := by
  rw [degenerateNames, List.mem_cons, List.mem_cons, List.mem_singleton, not_or, not_or] at h
  exact ⟨h.1, h.2.1, h.2.2, not_mem_copyName (by decide) names, not_mem_copyName (by decide) names,
    hShort⟩

end Coursebook.Media
