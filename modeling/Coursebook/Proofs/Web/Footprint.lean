import Coursebook.Proofs.Web.Downloads

/-!
# Coursebook — what an upload leaves behind

However an upload ends, its archive is gone afterwards, and so is the workshop. So of the three
locations that it touches, two are left where something may have changed: the directory of its course
and its zip archive; and there it is a single file at most that is written.

* `settle_removes` — the archive of the upload.
* `settle_results` — what may have changed.
* `upload_touches_own_course` — both, as an answer shows them.
-/

namespace Coursebook.Web

open Files Converter

variable {here : Location} {s : Site} {u : Upload} {w w₁ : World}

namespace Site

/-- The directory of the course in an upload, and its zip archive. -/
def results (s : Site) (here : Location) (u : Upload) : List Location :=
  [s.outputsAt here ++ [u.course], s.outputsAt here ++ [u.zip]]

/-- What is answered to an upload, as its conversion ends. -/
def reply (s : Site) (u : Upload) : Except UploadError Report → Response
  | .ok report => .converted (s.archivePath u).name report (s.zipName u)
  | .error e => .failed e.message

theorem IsOpen.place_outputs {d : Disk} (h : s.IsOpen here d) :
    d.place s.outputs = s.outputsAt here := Disk.SameOutside.place_eq h.here_eq _

section

variable (hLaid : s.IsLaidOut here) (hu : Archive.hasSuffix u.name = true)

include hu

theorem place_archivePath {d : Disk} (hHere : d.here = here) :
    d.place (s.archivePath u) = s.uploadsAt here ++ [safeName u.name] := by
  rw [archivePath_eq s hu, place_below_plain (isPlainName_safeName hu) hHere]
  rfl

include hLaid

/-! ## The archive of the upload -/

/-- Either an upload cannot be written, and that is all, or it stands there when its conversion has
ended. -/
theorem convert_keepsArchive (hOpen : s.IsOpen here w.disk) :
    ((s.convert u).run w).2 = w ∨
      ((s.convert u).run w).2.disk.entry (s.archivePath u) = .ok (.file u.content) := by
  rcases hRun : (Converting.take (World.change (write (s.archivePath u) u.content))).run w with
    ⟨outcome, w₁⟩
  cases outcome with
  | error e =>
    have hFailed : (s.convert u).run w = (.error e, w₁) := run_bind_of_error hRun
    rw [Converting.take_run, World.change_run] at hRun
    rcases hWrite : (write (s.archivePath u) u.content).run w.disk with ⟨written, d⟩
    rw [hWrite] at hRun
    cases written with
    | error e =>
      obtain rfl := write_eq_error hWrite
      rw [hFailed, ← (Prod.mk.inj hRun).2]
      exact .inl rfl
    | ok _ => cases (Prod.mk.inj hRun).1
  | ok _ =>
    have hWritten := writeArchive_edited (s := s) (w := w) hu hOpen.here_eq
    rw [hRun] at hWritten
    have hOpen₁ := hOpen.same hLaid (owns_upload s here _) hWritten.same
    have hEntry : w₁.disk.entry (s.archivePath u) = .ok (.file u.content) :=
      write_entry (World.change_eq_ok (take_eq_ok hRun))
    have hPrepared : (s.prepare u).run w = (s.replaceCourse u).run w₁ := run_bind_of_ok hRun
    have hReplaced := replaceCourse_edited hLaid hu hOpen₁
    rw [← hPrepared] at hReplaced
    have hKept := (entry_archivePath hLaid hu hReplaced.same).trans hEntry
    rcases convert_cases (s := s) hu w with ⟨_, w₂, d, hOk, hWrite, hConvert⟩ | ⟨_, hConvert⟩
    · rw [hOk] at hKept hReplaced
      rw [hConvert]
      -- the zip archive is written beside the course
      have hPlace : w₂.disk.place (s.outputs.below [u.zip]) = s.outputsAt here ++ [u.zip] :=
        place_below_plain (isPlainName_zip hu) (Disk.SameOutside.here_eq' hReplaced.same) _
      have hZip := write_sameOutside (Disk.SameOutside.here_eq' hReplaced.same)
        (covered_of_eq hPlace) (.zip (Archive.zipEntries w₂.disk (s.coursePath u)))
      rw [hWrite] at hZip
      exact .inr ((entry_archivePath hLaid hu hZip).trans hKept)
    · rw [hConvert]
      exact .inr hKept

/-- Where nothing has been in the way of it, the archive of an upload is removed without fault, so
that the answer tells how the conversion has ended; and nothing is left in its place. -/
theorem settle_removes (hOpen : s.IsOpen here w.disk)
    (hFree : w.disk.tree.HasNothing (s.uploadsAt here ++ [safeName u.name])) :
    ((s.settle u).run w).1 = .ok (s.reply u ((s.convert u).run w).1) ∧
      ((s.settle u).run w).2.disk.tree.HasNothing (s.uploadsAt here ++ [safeName u.name]) := by
  have hAnswered {d : Disk}
      (hRemoved : (removeFile (s.archivePath u)).run ((s.convert u).run w).2.disk = (.ok (), d)) :
      ((s.settle u).run w).1 = .ok (s.reply u ((s.convert u).run w).1) ∧
        ((s.settle u).run w).2.disk = d := by
    rw [settle_run]
    dsimp only
    rw [hRemoved]
    cases ((s.convert u).run w).1 <;> exact ⟨rfl, rfl⟩
  rcases convert_keepsArchive hLaid hu hOpen with hSame | hEntry
  · have hNone : w.disk.tree.find? (w.disk.place (s.archivePath u)) = none := by
      rw [place_archivePath hu hOpen.here_eq]
      exact hFree.self
    have hRemoved := removeFile_of_none hNone
    rw [← congrArg World.disk hSame] at hRemoved
    obtain ⟨hAnswer, hDisk⟩ := hAnswered hRemoved
    refine ⟨hAnswer, ?_⟩
    rw [hDisk, hSame]
    exact hFree
  · obtain ⟨hAnswer, hDisk⟩ := hAnswered (removeFile_run hEntry)
    refine ⟨hAnswer, fun names => ?_⟩
    have hPlace : ((s.convert u).run w).2.disk.place (s.archivePath u) =
        s.uploadsAt here ++ [safeName u.name] := by
      refine place_archivePath hu (Eq.trans ?_ (settle_isOpen hLaid hu hOpen).here_eq)
      rw [hDisk, Disk.remove_of_entry hEntry]
    rw [hDisk, Disk.remove_of_entry hEntry, hPlace, Tree.find?_removeAll _ _ _ (by simp), if_pos]
    exact List.isPrefixOf_iff_prefix.mpr (List.prefix_append _ _)

/-! ## The results -/

/-- Below the zip archive nothing ever changes: it is one file that is written. -/
theorem settle_zip_below (hOpen : s.IsOpen here w.disk) {names : List String} (hNames : names ≠ []) :
    ((s.settle u).run w).2.disk.tree.find? (s.outputsAt here ++ [u.zip] ++ names) =
      w.disk.tree.find? (s.outputsAt here ++ [u.zip] ++ names) := by
  have hPrepared := prepare_edited hLaid hu hOpen
  have hApart := hLaid.apart_touched (zip_ne_course u)
  have hBefore := Disk.SameOutside.find? hPrepared.same (hApart.not_covered names)
  -- what is removed last is elsewhere
  have hRemoved {w₁ : World} (hConvert : ((s.convert u).run w).2 = w₁)
      (hHere : w₁.disk.here = here) :
      ((s.settle u).run w).2.disk.tree.find? (s.outputsAt here ++ [u.zip] ++ names) =
        w₁.disk.tree.find? (s.outputsAt here ++ [u.zip] ++ names) := by
    have hSame := (removeArchive_edited (s := s) (w := w₁) hu hHere).same
    rw [settle_run]
    dsimp only
    rw [hConvert]
    exact Disk.SameOutside.find? hSame ((hLaid.apart_inside _ _).not_covered names)
  have hHere₁ := Disk.SameOutside.here_eq' hPrepared.same
  rcases convert_cases (s := s) hu w with ⟨_, w₁, d, hRun, hWrite, hConvert⟩ | ⟨_, hConvert⟩
  · rw [hRun] at hBefore hHere₁
    have hEdits := write_edits w₁.disk (s.outputs.below [u.zip])
      (.zip (Archive.zipEntries w₁.disk (s.coursePath u)))
    rw [hWrite] at hEdits
    refine (hRemoved (congrArg Prod.snd hConvert) (hEdits.here_eq.trans hHere₁)).trans
      ((hEdits.find_eq ?_).trans hBefore)
    rintro e ⟨hPlace, -⟩
    rw [place_below_plain (isPlainName_zip hu) hHere₁] at hPlace
    exact hNames (List.append_right_eq_self.mp hPlace)
  · exact (hRemoved (congrArg Prod.snd hConvert) hHere₁).trans hBefore

/-- Where its archive has not been there before, an upload leaves changes in its results only. -/
theorem settle_results (hOpen : s.IsOpen here w.disk)
    (hFree : w.disk.tree.HasNothing (s.uploadsAt here ++ [safeName u.name])) :
    Edited here (s.results here u) w ((s.settle u).run w).2 := by
  have hEdited := settle_edited hLaid hu hOpen
  have hMore : (s.outputsAt here ++ [u.zip]) :: s.touched here u ⊆
      (s.uploadsAt here ++ [safeName u.name]) :: s.results here u := by
    simp [touched, results]
  exact ⟨Disk.SameOutside.of_clear (Disk.SameOutside.mono hEdited.same hMore) hFree.not_mem
    (settle_removes hLaid hu hOpen hFree).2.not_mem, hEdited.unique⟩

/-- An empty directory for uploads stays empty. -/
theorem settle_uploads (hOpen : s.IsOpen here w.disk)
    (hFree : ∀ name, w.disk.tree.HasNothing (s.uploadsAt here ++ [name])) (name : String) :
    ((s.settle u).run w).2.disk.tree.HasNothing (s.uploadsAt here ++ [name]) := by
  intro names
  have hSame := (settle_results hLaid hu hOpen (hFree _)).same
  refine (Disk.SameOutside.find? hSame (Apart.not_covered ?_ names)).trans (hFree name names)
  refine List.forall_mem_cons.mpr ⟨?_, List.forall_mem_singleton.mpr ?_⟩
  · exact (hLaid.apart_inside name u.course).symm _ (List.mem_singleton_self _)
  · exact (hLaid.apart_inside name u.zip).symm _ (List.mem_singleton_self _)

end

/--
**An upload touches only its own course.** Both directories of the site are there, and the one for
uploads is empty. Then any upload that is taken is answered, and the name of its course leads one step
down. Whether or not the course is converted, all that has changed after the answer is at or below
that name in the directory for outputs, or is the zip archive beside it; the directory for uploads is
empty again, and the workshop is gone.
-/
theorem upload_touches_own_course {s : Site} {r : Request} {u : Upload} {w : World}
    (hLaid : s.IsLaidOut w.disk.here) (hOpen : s.IsOpen w.disk.here w.disk)
    (hUploads : ∀ name, w.disk.tree.HasNothing (w.disk.place s.uploads ++ [name]))
    (hLead : lead r.method r.target = .to .convert) (hTake : takeUpload r.upload = .ok u) :
    let course := Archive.courseName (.ofString (safeName u.name))
    let outputs := w.disk.place s.outputs
    let w₁ := ((s.answer r).run w).2
    (course ∉ ["", ".", ".."] ∧ '/' ∉ course.toList) ∧
    (∃ answer, ((s.answer r).run w).1 = .ok answer) ∧
    (∀ l, w₁.disk.tree.find? l ≠ w.disk.tree.find? l →
      outputs ++ [course] <+: l ∨ l = outputs ++ [s!"{course}_liascript.zip"]) ∧
    (∀ name, w₁.disk.tree.HasNothing (w.disk.place s.uploads ++ [name])) ∧
    w₁.disk.tree.HasNothing (w.disk.place workshop) := by
  intro course outputs w₁
  obtain ⟨-, hu⟩ := takeUpload_eq_ok hTake
  have hPlain := isPlainName_course hu
  have hCourse : course = u.course := courseName_safeName hu
  have hRun : (s.answer r).run w = (s.settle u).run w := answer_upload hOpen hLead hTake
  have hWorld : w₁ = ((s.settle u).run w).2 := congrArg Prod.snd hRun
  rw [hCourse, hWorld]
  -- the name; the answer; what has changed; the directory for uploads; the workshop
  refine ⟨⟨?_, hPlain.not_mem (by decide)⟩, ?_, fun l hChanged => ?_, ?_, ?_⟩
  · simpa using ⟨hPlain.ne_empty, hPlain.ne_here, hPlain.ne_up⟩
  · rw [hRun]
    exact ⟨_, (settle_removes hLaid hu hOpen (hUploads _)).1⟩
  · by_contra hElse
    obtain ⟨hNotCourse, hNotZip⟩ := not_or.mp hElse
    by_cases hBelow : outputs ++ [u.zip] <+: l
    · obtain ⟨names, rfl⟩ := hBelow
      refine hChanged (settle_zip_below hLaid hu hOpen fun hNil => hNotZip ?_)
      rw [hNil, List.append_nil]
      rfl
    · refine hChanged (Disk.SameOutside.find? (settle_results hLaid hu hOpen (hUploads _)).same ?_)
      rw [not_covered_iff]
      exact List.forall_mem_cons.mpr ⟨hNotCourse, List.forall_mem_singleton.mpr hBelow⟩
  · exact settle_uploads hLaid hu hOpen hUploads
  · intro names
    by_contra hSome
    obtain ⟨e, he⟩ := Option.ne_none_iff_exists'.mp hSome
    have hTop : w.disk.place workshop ++ names ≠ [] := by simp [place_workshop]
    -- a site that is open has nothing where the workshop goes
    have hRoom := (settle_isOpen hLaid hu hOpen).room
    refine hRoom.free _ (Tree.mem_entries_of_find? hTop he) ?_
    rw [Disk.place_congr (settle_isOpen hLaid hu hOpen).here_eq]
    exact List.prefix_append _ _

theorem quietWorld_uploads (name : String) :
    quietWorld.disk.tree.HasNothing (["uploads"] ++ [name]) := by
  intro names
  simp [quietWorld, Tree.find?, List.lookup_cons]

/-- An archive is uploaded where there is nothing yet. -/
theorem sentCourse_touches_own_course :
    let r : Request := ⟨.post, "/convert", some sentCourse⟩
    let w₁ := ((({} : Site).answer r).run quietWorld).2
    takeUpload r.upload = .ok sentCourse ∧
    ∀ l, w₁.disk.tree.find? l ≠ quietWorld.disk.tree.find? l →
      ["outputs", "a"] <+: l ∨ l = ["outputs", "a_liascript.zip"] := by
  intro r w₁
  obtain ⟨-, -, hChanged, -, -⟩ := upload_touches_own_course (r := r) (u := sentCourse)
    (isLaidOut_default _) quietWorld_isOpen quietWorld_uploads (by decide) rfl
  have hCourse : Archive.courseName (.ofString (safeName sentCourse.name)) = "a" := by decide
  rw [hCourse] at hChanged
  exact ⟨rfl, hChanged⟩

end Site

end Coursebook.Web
