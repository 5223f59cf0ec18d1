import Coursebook.Proofs.Conversion.Completion
import Coursebook.Proofs.Web.Serving

/-!
# Coursebook — uploads that succeed, and uploads that do not

What an upload touches is told without asking how it ends. Here is how it does: a course of one file
is converted where nothing is in its way, and what is no archive never is, whatever is on the disk.

* `settle_single` — a course of one file.
* `settle_of_no_archive` — no course.
-/

namespace Coursebook.Web

open Files Converter

variable {here : Location} {s : Site} {u : Upload} {w w₁ : World} {report : Report} {text : String}
  {element top full : Xml.Element}

/-- Names that the system takes for what an upload touches. -/
structure Upload.Fits (u : Upload) (s : Site) : Prop where
  archive : IsName (safeName u.name)
  archivePath : (s.uploads.below [safeName u.name]).IsWritable
  course : FitsCourse {} s.outputs u.course
  zip : IsName u.zip
  zipPath : (s.outputs.below [u.zip]).IsWritable

instance (p : Path) : Decidable p.IsWritable :=
  inferInstanceAs (Decidable ('\x00' ∉ (toString p).toList ∧ isLongPath (toString p) = false))

instance (u : Upload) (s : Site) : Decidable (u.Fits s) :=
  let course := s.outputs.below [u.course]
  decidable_of_iff
    ((IsName (safeName u.name) ∧ (s.uploads.below [safeName u.name]).IsWritable) ∧
      (IsName u.course ∧ (course.below ["course.md"]).IsWritable ∧
        (course.below ["media"]).IsWritable) ∧
      IsName u.zip ∧ (s.outputs.below [u.zip]).IsWritable)
    ⟨fun ⟨⟨hArchive, hArchivePath⟩, ⟨hCourse, hDocument, hMedia⟩, hZip, hZipPath⟩ =>
        ⟨hArchive, hArchivePath,
          ⟨⟨by decide, by decide, by decide⟩, hCourse, hDocument, hMedia⟩, hZip, hZipPath⟩,
      fun h => ⟨⟨h.archive, h.archivePath⟩, ⟨h.course.isName, h.course.document, h.course.media⟩,
        h.zip, h.zipPath⟩⟩

namespace Site

/-- Nothing is in the way of an upload: there is no directory in place of its archive and of its zip
archive, and nothing at all in place of its course. -/
structure IsFreeFor (s : Site) (here : Location) (u : Upload) (d : Disk) : Prop where
  archive : d.tree.find? (s.uploadsAt here ++ [safeName u.name]) ≠ some .directory
  course : ∀ names, d.tree.find? (s.outputsAt here ++ [u.course] ++ names) = none
  zip : d.tree.find? (s.outputsAt here ++ [u.zip]) ≠ some .directory

theorem IsOpen.locate_uploads {d : Disk} (h : s.IsOpen here d) :
    d.locate s.uploads = .ok (s.uploadsAt here) ∧
      d.tree.find? (s.uploadsAt here) = some .directory := by
  have hEntry := Disk.entry_eq_ok h.uploads
  rw [Disk.SameOutside.place_eq h.here_eq] at hEntry
  exact hEntry

theorem IsOpen.locate_outputs {d : Disk} (h : s.IsOpen here d) :
    d.locate s.outputs = .ok (s.outputsAt here) ∧
      d.tree.find? (s.outputsAt here) = some .directory := by
  have hEntry := Disk.entry_eq_ok h.outputs
  rw [Disk.SameOutside.place_eq h.here_eq] at hEntry
  exact hEntry

section

variable (hLaid : s.IsLaidOut here) (hu : Archive.hasSuffix u.name = true)

include hu

/-! ## A course of one file -/

theorem writeArchive_ok (hOpen : s.IsOpen here w.disk) (hFits : u.Fits s)
    (hFree : w.disk.tree.find? (s.uploadsAt here ++ [safeName u.name]) ≠ some .directory) :
    ∃ w₁, (Converting.take (World.change (write (s.archivePath u) u.content))).run w =
      (.ok (), w₁) := by
  obtain ⟨hLocate, hDir⟩ := hOpen.locate_uploads
  have hWrite := write_ok hLocate hDir hFits.archive hFits.archivePath hFree u.content
  rw [← archivePath_eq s hu] at hWrite
  exact ⟨_, by rw [Converting.take_run, World.change_of_ok hWrite]; rfl⟩

/-- Where there is no course, nothing is cleared away. -/
theorem clearCourse_of_none (hOpen : s.IsOpen here w.disk) (hFits : u.Fits s)
    (hNone : w.disk.tree.find? (s.outputsAt here ++ [u.course]) = none) :
    (clearDirectory (s.coursePath u)).run w = (.ok (), w) := by
  obtain ⟨hLocate, hDir⟩ := hOpen.locate_outputs
  have hCourse := Disk.locate_below_singleton hLocate hDir hFits.course.isName
    hFits.course.document.of_below
  rw [coursePath_eq s hu]
  exact clearDirectory_of_none hCourse hNone

include hLaid

/-- Up to the zip archive all goes well. -/
theorem prepare_short (hOpen : s.IsOpen here w.disk) (hFits : u.Fits s)
    (hFree : s.IsFreeFor here u w.disk) (hContent : u.content = packedSingle text)
    (hShort : ∀ d, w.disk.SameOutside here [s.uploadsAt here ++ [safeName u.name]] d →
      IsShortCourse d text top full) :
    ∃ report w₁, (s.prepare u).run w = (.ok report, w₁) := by
  obtain ⟨w₁, hWritten⟩ := writeArchive_ok hu hOpen hFits hFree.archive
  have hEntry := write_entry (World.change_eq_ok (take_eq_ok hWritten))
  have hEdited := writeArchive_edited (s := s) (w := w) hu hOpen.here_eq
  rw [hWritten] at hEdited
  -- the course finds the place free as before
  have hOpen₁ : s.IsOpen here w₁.disk := hOpen.same hLaid (owns_upload s here _) hEdited.same
  have hNone (names : List String) :
      w₁.disk.tree.find? (s.outputsAt here ++ [u.course] ++ names) = none :=
    (Disk.SameOutside.find? hEdited.same ((hLaid.apart_inside _ _).not_covered names)).trans
      (hFree.course names)
  have hNone₁ : w₁.disk.tree.find? (s.outputsAt here ++ [u.course]) = none := by
    rw [← List.append_nil (s.outputsAt here ++ [u.course])]
    exact hNone []
  have hClear := clearCourse_of_none hu hOpen₁ hFits hNone₁
  have hTakes : TakesCourse {} s.outputs u.course w₁.disk (s.outputsAt here) := by
    refine ⟨hOpen₁.locate_outputs.1, hOpen₁.locate_outputs.2, fun c => ?_, ?_, fun c => ?_⟩
    · rw [hNone₁]
      exact nofun
    · rw [hNone]
      exact nofun
    · rw [hNone]
      exact nofun
  have hApart : Apart [w₁.disk.place workshop] (s.outputsAt here ++ [u.course]) := by
    rw [Disk.SameOutside.place_eq hOpen₁.here_eq]
    exact (hLaid.apart_workshop (owns_output s here u.course)).symm
  obtain ⟨report, w₂, hConvert, -⟩ := convert_single hFits.course hOpen₁.room hTakes hApart
    (coursePath_eq s hu) (hContent ▸ Disk.read_of_entry hEntry) (hShort _ hEdited.same)
  have hTaken : (Converting.take ((standard {}).convert (s.archivePath u) s.outputs)).run w₁ =
      (.ok report, w₂) := by
    rw [Converting.take_run, hConvert]
    rfl
  exact ⟨report, w₂, (run_bind_of_ok hWritten).trans ((run_bind_of_ok hClear).trans hTaken)⟩

/-- A course of one file is converted where nothing is in its way. -/
theorem settle_short (hOpen : s.IsOpen here w.disk) (hFits : u.Fits s)
    (hFree : s.IsFreeFor here u w.disk) (hContent : u.content = packedSingle text)
    (hShort : ∀ d, w.disk.SameOutside here [s.uploadsAt here ++ [safeName u.name]] d →
      IsShortCourse d text top full) :
    ∃ report, ((s.settle u).run w).1 = .ok (.converted (s.archivePath u).name report u.zip) := by
  obtain ⟨report, w₁, hRun⟩ := prepare_short hLaid hu hOpen hFits hFree hContent hShort
  have hEdited := prepare_edited hLaid hu hOpen
  rw [hRun] at hEdited
  have hOpen₁ : s.IsOpen here w₁.disk := hOpen.same hLaid (owns_touched s here u) hEdited.same
  obtain ⟨⟨c, hArchive⟩, -⟩ := prepare_eq_ok hLaid hu hOpen hRun
  -- the place of the zip archive has not been touched
  have hZip : w₁.disk.tree.find? (s.outputsAt here ++ [u.zip]) ≠ some .directory := by
    have hApart := hLaid.apart_touched (zip_ne_course u)
    have hSame := Disk.SameOutside.find? hEdited.same (hApart.not_covered [])
    rw [List.append_nil] at hSame
    exact hSame ▸ hFree.zip
  have hWrite := write_ok hOpen₁.locate_outputs.1 hOpen₁.locate_outputs.2 hFits.zip hFits.zipPath
    hZip (.zip (Archive.zipEntries w₁.disk (s.coursePath u)))
  have hPack := pack_run s u w₁
  rw [zipPath_eq s hu, hWrite] at hPack
  refine ⟨report, (settle_of_ok hLaid hu hOpen₁.here_eq hArchive hWrite ?_).1⟩
  rw [convert_eq, run_bind_of_ok hRun]
  exact (run_bind_of_ok hPack).trans (run_pure _ _)

/-- A course that is described in a file that cannot be read is not converted. -/
theorem settle_of_unreadable (hOpen : s.IsOpen here w.disk) (hContent : u.content = packedSingle text)
    (hTop : ∀ d p, d.read p = .ok (.ofText text) → Course.readXml d p = .ok top) {e : Failure}
    (hDescribed : ∀ d, w.disk.SameOutside here (w.disk.place workshop :: s.touched here u) d →
      Course.describingElement d unpackedPath top = .error e) (source : String) (report : Report)
    (zip : String) : ((s.settle u).run w).1 ≠ .ok (.converted source report zip) := by
  rcases settle_cases hLaid hu hOpen with ⟨report, w₃, hRun, -⟩ | ⟨hNot, -⟩
  · obtain ⟨w₂, hOpen₂, hEdited, hEntry, hConvert⟩ := prepare_reaches hLaid hu hOpen hRun
    have hFails : (((standard {}).convert (s.archivePath u) s.outputs).run w₂).1 = .error e := by
      refine convert_single_fails hOpen₂.room (hContent ▸ Disk.read_of_entry hEntry) hTop
        fun d hUnpacked => hDescribed d ?_
      rw [hOpen₂.here_eq, Disk.SameOutside.place hEdited.same] at hUnpacked
      exact (Disk.SameOutside.mono hEdited.same (List.subset_cons_self _ _)).trans
        (hUnpacked.mono (by simp))
    rw [take_eq_ok hConvert] at hFails
    cases hFails
  · exact hNot _ _ _

end

/-! ## Answers -/

/-- What is sent to be converted is. -/
theorem answer_upload {r : Request} (hOpen : s.IsOpen here w.disk)
    (hLead : lead r.method r.target = .to .convert) (hTake : takeUpload r.upload = .ok u) :
    (s.answer r).run w = (s.settle u).run w := by
  have hAnswer : s.answer r = s.answerUpload u := by
    simp only [answer, hLead, hTake]
  rw [hAnswer, answerUpload_eq, run_bind_of_ok (opening_of_isOpen hOpen)]

end Site

end Coursebook.Web
