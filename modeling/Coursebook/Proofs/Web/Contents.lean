import Coursebook.Proofs.Conversion.Output
import Coursebook.Proofs.Web.Footprint

/-!
# Coursebook — what stands in the directory for outputs

The courses of all uploads and the zip archives of all that have been converted stand in one
directory, under names that the clients have chosen. A name is one or the other there, or nothing:
whoever comes second with a name that is taken in the other way does not get it.

* `Shelf` — what stands at a name, with where it has come from.
* `settle_shelf`, `answer_shelf`, `serve_shelf` — one upload, one request, and all.
-/

namespace Coursebook.Web

open Files Converter

variable {here : Location} {cones : List Location} {s : Site} {u : Upload} {d d' : Disk}
  {w w₁ : World} {name : String} {courses courses' zips zips' : String → Prop}

/-- A request that comes with a course of a name. -/
def Request.Brings (r : Request) (course : String) : Prop :=
  ∃ u, r.upload = some u ∧ Archive.hasSuffix u.name = true ∧ u.course = course

namespace Site

/-- A site that has answered all requests so far: no upload is left. -/
structure IsIdle (s : Site) (here : Location) (d : Disk) : Prop extends IsOpen s here d where
  idle : ∀ name, d.tree.HasNothing (s.uploadsAt here ++ [name])

/-- A site that has not answered any request. -/
structure IsNew (s : Site) (here : Location) (d : Disk) : Prop extends IsIdle s here d where
  bare : ∀ name, d.tree.HasNothing (s.outputsAt here ++ [name])

/-- What stands at a name in the directory for outputs: nothing at all, the directory of a course
that has come, or a zip archive that has been told of. -/
inductive Shelf (s : Site) (here : Location) (courses zips : String → Prop) (name : String)
    (d : Disk) : Prop where
  | empty (nothing : d.tree.HasNothing (s.outputsAt here ++ [name]))
  | course (come : courses name)
      (directory : d.tree.find? (s.outputsAt here ++ [name]) = some .directory)
  | zip {entries : List ZipEntry} (told : zips name) (plain : IsPlainName name)
      (file : d.entry (s.outputs.below [name]) = .ok (.file (.zip entries)))
      (below : ∀ names, names ≠ [] → d.tree.find? (s.outputsAt here ++ [name] ++ names) = none)

namespace Shelf

theorem mono (h : s.Shelf here courses zips name d) (hCourses : courses name → courses' name)
    (hZips : zips name → zips' name) : s.Shelf here courses' zips' name d := by
  cases h with
  | empty nothing => exact .empty nothing
  | course come directory => exact .course (hCourses come) directory
  | zip told plain file below => exact .zip (hZips told) plain file below

/-- What happens elsewhere leaves it. -/
theorem same (h : s.Shelf here courses zips name d) (hLaid : s.IsLaidOut here)
    (hSame : d.SameOutside here cones d') (hApart : Apart cones (s.outputsAt here ++ [name])) :
    s.Shelf here courses zips name d' := by
  have hFind (names : List String) : d'.tree.find? (s.outputsAt here ++ [name] ++ names) =
      d.tree.find? (s.outputsAt here ++ [name] ++ names) := hSame.find? (hApart.not_covered names)
  cases h with
  | empty nothing => exact .empty fun names => (hFind names).trans (nothing names)
  | course come directory =>
    have hSelf := hFind []
    rw [List.append_nil] at hSelf
    exact .course come (hSelf.trans directory)
  | zip told plain file below =>
    refine .zip told plain ((hSame.entry ?_).trans file) fun names hNames =>
      (hFind names).trans (below names hNames)
    exact avoids_below_plain plain hLaid.outputs_down fun k hk => (hApart k hk).1

/-- A directory or nothing, if not a zip archive. -/
theorem isDirectoryOrNothing (h : s.Shelf here courses zips name d)
    (hNot : ∀ entries, d.entry (s.outputs.below [name]) ≠ .ok (.file (.zip entries))) :
    d.tree.IsDirectoryOrNothing (s.outputsAt here ++ [name]) := by
  cases h with
  | empty nothing => exact .inr nothing
  | course come directory => exact .inl directory
  | zip told plain file below => exact absurd file (hNot _)

end Shelf

/-! ## The place of a course -/

/-- The way to a plain name in the directory for outputs can be gone, unless it is too long. -/
theorem IsOpen.locate_output (h : s.IsOpen here d) (hName : IsPlainName name) :
    d.locate (s.outputs.below [name]) = .ok (s.outputsAt here ++ [name]) ∨
      d.locate (s.outputs.below [name]) = .error .nameTooLong := by
  obtain ⟨hLocate, hDir⟩ := h.locate_outputs
  have hWritable := Disk.isWritable_of_locate hLocate
  have hNull : ∀ n ∈ [name], '\x00' ∉ n.toList :=
    List.forall_mem_singleton.mpr (hName.not_mem (by decide))
  by_cases hLong : isLongPath (toString (s.outputs.below [name])) = true
  · have hNo : ¬ (toString (s.outputs.below [name])).contains '\x00' = true := by
      rw [String.contains_char_eq, decide_eq_true_eq]
      exact Path.null_not_mem_below hWritable.1 hNull
    rw [Disk.locate, if_neg hNo, if_pos hLong]
    exact .inr rfl
  · -- the path is not too long as a whole, but the name may still be
    rw [Disk.locate_below hLocate (hWritable.below hNull (Bool.not_eq_true _ ▸ hLong)), Tree.walk,
      hDir]
    dsimp only
    rw [if_neg hName.ne_up]
    split
    · exact .inr rfl
    · exact .inl rfl

section

variable (hLaid : s.IsLaidOut here) (hu : Archive.hasSuffix u.name = true)

include hu

/-- What an earlier upload has left of a course is cleared away, unless its name is too long. -/
theorem clearCourse_cases (hOpen : s.IsOpen here w.disk)
    (hKind : w.disk.tree.IsDirectoryOrNothing (s.outputsAt here ++ [u.course])) :
    (w.disk.locate (s.coursePath u) = .ok (s.outputsAt here ++ [u.course]) ∧
      ∃ w₁, (clearDirectory (s.coursePath u)).run w = (.ok (), w₁) ∧
        w₁.disk.tree.HasNothing (s.outputsAt here ++ [u.course])) ∨
    (w.disk.locate (s.coursePath u) = .error .nameTooLong ∧
      (clearDirectory (s.coursePath u)).run w =
        (.error (.conversion (.file ⟨.nameTooLong, s.coursePath u⟩)), w)) := by
  have hWay := hOpen.locate_output (isPlainName_course hu)
  rw [← coursePath_eq s hu] at hWay
  rcases hWay with hLocate | hLong
  · refine .inl ⟨hLocate, ?_⟩
    rcases hKind with hDir | hNothing
    · have hEntry := Disk.entry_of_locate hLocate hDir
      have hHas : w.disk.has (s.coursePath u) = .ok true := Disk.ask_of_entry hEntry _
      have hIs : w.disk.isDirectory (s.coursePath u) = .ok true := Disk.ask_of_entry hEntry _
      rw [clearDirectory_run, hHas, hIs]
      refine ⟨_, rfl, fun names => ?_⟩
      dsimp only
      rw [Disk.remove_of_entry hEntry, ← Disk.locate_eq_place hLocate,
        Tree.find?_removeAll _ _ _ (by simp), if_pos]
      exact List.isPrefixOf_iff_prefix.mpr (List.prefix_append _ _)
    · exact ⟨w, clearDirectory_of_none hLocate hNothing.self, hNothing⟩
  · refine .inr ⟨hLong, ?_⟩
    have hHas : w.disk.has (s.coursePath u) = .error ⟨.nameTooLong, s.coursePath u⟩ := by
      rw [Disk.has, Disk.ask, Disk.entry, hLong]
      rfl
    rw [clearDirectory_run, hHas]

include hLaid

/-- A conversion makes the directory of the course, or leaves its place alone. -/
theorem convertCourse_course (hOpen : s.IsOpen here w.disk)
    (hKind : w.disk.tree.IsDirectoryOrNothing (s.outputsAt here ++ [u.course])) :
    ((Converting.take ((standard {}).convert (s.archivePath u) s.outputs)).run
      w).2.disk.tree.IsDirectoryOrNothing (s.outputsAt here ++ [u.course]) := by
  have hPlain := isPlainName_course hu
  have hPath : courseDirectory s.outputs (s.archivePath u) = s.outputs.below [u.course] :=
    coursePath_eq s hu
  have hPlace : w.disk.place (s.outputs.below [u.course]) = s.outputsAt here ++ [u.course] :=
    place_below_plain hPlain hOpen.here_eq _
  have hUp : ".." ∉ (s.outputs.below [u.course]).names := by
    simpa using ⟨hLaid.outputs_down, hPlain.ne_up.symm⟩
  have hOut := isOutput_of_isThere (Disk.isThere_of_entry hOpen.outputs) hOpen.here_eq hPlain.ne_up
  have hApart : Apart (inside (w.disk.place s.outputs) [u.course]) (w.disk.place workshop) := by
    rw [hOpen.place_outputs, Disk.SameOutside.place_eq hOpen.here_eq]
    exact hLaid.apart_workshop (owns_output s here _)
  rw [← hPath] at hUp hOut
  have hMade := convert_makesOrLeaves (standard {}) ⟨by decide, by decide⟩ hOpen.room hUp hOut hApart
  rw [hPath, hPlace] at hMade
  exact hMade.isDirectoryOrNothing hKind

theorem replaceCourse_course (hOpen : s.IsOpen here w.disk)
    (hKind : w.disk.tree.IsDirectoryOrNothing (s.outputsAt here ++ [u.course])) :
    ((s.replaceCourse u).run w).2.disk.tree.IsDirectoryOrNothing
      (s.outputsAt here ++ [u.course]) := by
  have hCleared := (clearCourse_edited (s := s) (w := w) hu hOpen.here_eq).same
  rcases clearCourse_cases hu hOpen hKind with ⟨-, w₁, hRun, hNothing⟩ | ⟨-, hRun⟩
  · rw [hRun] at hCleared
    rw [replaceCourse, run_bind_of_ok hRun]
    exact convertCourse_course hLaid hu (hOpen.same hLaid (owns_output s here _) hCleared)
      (.inr hNothing)
  · rw [replaceCourse, run_bind_of_error hRun]
    exact hKind

theorem prepare_course (hOpen : s.IsOpen here w.disk)
    (hKind : w.disk.tree.IsDirectoryOrNothing (s.outputsAt here ++ [u.course])) :
    ((s.prepare u).run w).2.disk.tree.IsDirectoryOrNothing (s.outputsAt here ++ [u.course]) := by
  have hWritten := (writeArchive_edited (s := s) (w := w) hu hOpen.here_eq).same
  rcases hRun : (Converting.take (World.change (write (s.archivePath u) u.content))).run w with
    ⟨outcome, w₁⟩
  rw [hRun] at hWritten
  have hKind₁ :=
    (Disk.SameOutside.makesOrLeaves hWritten (hLaid.apart_inside _ _)).isDirectoryOrNothing hKind
  cases outcome with
  | error e =>
    rw [prepare, run_bind_of_error hRun]
    exact hKind₁
  | ok _ =>
    rw [prepare, run_bind_of_ok hRun]
    exact replaceCourse_course hLaid hu (hOpen.same hLaid (owns_upload s here _) hWritten) hKind₁

/-- In place of a course there is a directory or nothing after its upload, as before. -/
theorem settle_course (hOpen : s.IsOpen here w.disk)
    (hKind : w.disk.tree.IsDirectoryOrNothing (s.outputsAt here ++ [u.course])) :
    ((s.settle u).run w).2.disk.tree.IsDirectoryOrNothing (s.outputsAt here ++ [u.course]) := by
  have hPrepared := prepare_course hLaid hu hOpen hKind
  rcases settle_cases hLaid hu hOpen with ⟨_, w₁, hRun, -, hPacked⟩ | ⟨-, hSettled⟩
  · rw [hRun] at hPrepared
    refine (Disk.SameOutside.makesOrLeaves hPacked.edited.same ?_).isDirectoryOrNothing hPrepared
    exact List.forall_mem_cons.mpr ⟨apart_output s here (zip_ne_course u).symm _
      (List.mem_singleton_self _), hLaid.apart_inside _ _⟩
  · exact (Disk.SameOutside.makesOrLeaves hSettled.same
      (hLaid.apart_inside _ _)).isDirectoryOrNothing hPrepared

/-- A zip archive is not written where a directory is. -/
theorem ne_directory_of_converted (hOpen : s.IsOpen here w.disk) {source zip : String}
    {report : Report} (h : ((s.settle u).run w).1 = .ok (.converted source report zip)) :
    w.disk.tree.find? (s.outputsAt here ++ [u.zip]) ≠ some .directory := by
  have hPrepared := (prepare_edited hLaid hu hOpen).same
  rcases convert_cases (s := s) hu w with ⟨_, w₁, d, hRun, hWrite, -⟩ | ⟨e, hConvert⟩
  · rw [hRun] at hPrepared
    obtain ⟨l, hLocate, hNot, -⟩ := write_eq_ok hWrite
    obtain rfl := Disk.locate_eq_place hLocate
    rw [place_below_plain (isPlainName_zip hu) (Disk.SameOutside.here_eq' hPrepared)] at hNot
    have hApart := hLaid.apart_touched (zip_ne_course u)
    have hSame := Disk.SameOutside.find? hPrepared (hApart.not_covered [])
    rw [List.append_nil] at hSame
    exact hSame ▸ hNot
  · exact absurd h ((settle_of_error hu (Disk.SameOutside.here_eq' hPrepared) hConvert).1 _ _ _)

/-! ## An upload -/

/-- An upload leaves what stands at each name, or something that it accounts for. -/
theorem settle_shelf (hOpen : s.IsOpen here w.disk) {name : String}
    (h : s.Shelf here courses zips name w.disk) :
    s.Shelf here (fun c => courses c ∨ c = u.course)
      (fun z => zips z ∨ ∃ source report, ((s.settle u).run w).1 = .ok (.converted source report z))
      name ((s.settle u).run w).2.disk := by
  have hMore : s.Shelf here (fun c => courses c ∨ c = u.course)
      (fun z => zips z ∨ ∃ source report, ((s.settle u).run w).1 = .ok (.converted source report z))
      name w.disk := h.mono .inl .inl
  have hCases := settle_cases hLaid hu hOpen
  by_cases hCourse : name = u.course
  · subst hCourse
    by_cases hZip : ∃ entries, w.disk.entry (s.outputs.below [u.course]) = .ok (.file (.zip entries))
    · -- a zip archive is in the way of the course, and stays there
      obtain ⟨entries, hFile⟩ := hZip
      rw [← coursePath_eq s hu] at hFile
      obtain ⟨⟨e, hError⟩, hPrepared⟩ := prepare_of_file hLaid hu hOpen.here_eq hFile
      rcases hCases with ⟨_, _, hRun, -⟩ | ⟨-, hSettled⟩
      · rw [hRun] at hError
        cases hError
      · exact hMore.same hLaid (hPrepared.trans hSettled).same (hLaid.apart_inside _ _)
    · have hKind := h.isDirectoryOrNothing fun entries hFile => hZip ⟨entries, hFile⟩
      rcases settle_course hLaid hu hOpen hKind with hDir | hNothing
      · exact .course (.inr rfl) hDir
      · exact .empty hNothing
  · have hApart := hLaid.apart_touched hCourse
    rcases hCases with ⟨report, w₁, -, hSettled, hPacked⟩ | ⟨-, hSettled⟩
    · by_cases hZip : name = u.zip
      · -- the zip archive has been written, where there has been none or another one
        subst hZip
        refine .zip (.inr ⟨_, report, hSettled⟩) (isPlainName_zip hu) hPacked.kept
          fun names hNames => (settle_zip_below hLaid hu hOpen hNames).trans ?_
        cases h with
        | empty nothing => exact nothing names
        | course come directory =>
          exact absurd directory (ne_directory_of_converted hLaid hu hOpen hSettled)
        | zip told plain file below => exact below names hNames
      · refine hMore.same hLaid (settle_edited hLaid hu hOpen).same
          (List.forall_mem_cons.mpr ⟨?_, hApart⟩)
        exact apart_output s here hZip _ (List.mem_singleton_self _)
    · exact hMore.same hLaid ((prepare_edited hLaid hu hOpen).trans
        (hSettled.mono (by simp [touched]))).same hApart

/-- After a success both the directory of the course and its zip archive are there. -/
theorem settle_stands (hOpen : s.IsOpen here w.disk) {source zip : String} {report : Report}
    (h : ((s.settle u).run w).1 = .ok (.converted source report zip)) :
    ((s.settle u).run w).2.disk.entry (s.outputs.below [u.course]) = .ok .directory ∧
      ∃ entries, ((s.settle u).run w).2.disk.entry (s.outputs.below [u.zip]) =
        .ok (.file (.zip entries)) := by
  rcases settle_cases hLaid hu hOpen with ⟨_, w₁, hRun, -, hPacked⟩ | ⟨hNot, -⟩
  · have hDirectory := (prepare_eq_ok hLaid hu hOpen hRun).2
    rw [coursePath_eq s hu] at hDirectory
    refine ⟨(Disk.SameOutside.entry hPacked.edited.same ?_).trans hDirectory, _, hPacked.kept⟩
    refine avoids_below_plain (isPlainName_course hu) hLaid.outputs_down ?_
    refine List.forall_mem_cons.mpr ⟨?_, List.forall_mem_singleton.mpr ?_⟩
    · simp [outputsAt, zip_ne_course u]
    · exact (hLaid.apart_inside _ _ _ (List.mem_singleton_self _)).1
  · exact absurd h (hNot _ _ _)

end

/-! ## Requests -/

section

variable (hLaid : s.IsLaidOut here)

include hLaid

theorem answer_isOpen (hOpen : s.IsOpen here w.disk) (r : Request) :
    s.IsOpen here ((s.answer r).run w).2.disk := by
  rcases s.answer_cases r w with ⟨u, -, hu, hAnswer⟩ | ⟨-, hSame⟩
  · rw [hAnswer, answerUpload_eq, run_bind_of_ok (opening_of_isOpen hOpen)]
    exact settle_isOpen hLaid hu hOpen
  · rw [hSame]
    exact hOpen

/-- An open site stays open. -/
theorem serve_isOpen (hOpen : s.IsOpen here w.disk) (requests : List Request) :
    s.IsOpen here (s.serve requests w).2.disk := by
  induction requests generalizing w with
  | nil => exact hOpen
  | cons r rest ih =>
    rw [serve_cons]
    exact ih (answer_isOpen hLaid hOpen r)

/-- A request leaves what stands at each name accounted for. -/
theorem answer_shelf (hOpen : s.IsOpen here w.disk) (r : Request)
    (h : s.Shelf here courses zips name w.disk) :
    s.Shelf here (fun c => courses c ∨ r.Brings c)
      (fun z => zips z ∨ ∃ source report, ((s.answer r).run w).1 = .ok (.converted source report z))
      name ((s.answer r).run w).2.disk := by
  rcases s.answer_cases r w with ⟨u, hSent, hu, hAnswer⟩ | ⟨-, hSame⟩
  · rw [hAnswer, answerUpload_eq, run_bind_of_ok (opening_of_isOpen hOpen)]
    refine (settle_shelf hLaid hu hOpen h).mono ?_ id
    rintro (hBefore | rfl)
    · exact .inl hBefore
    · exact .inr ⟨u, hSent, hu, rfl⟩
  · rw [hSame]
    exact h.mono .inl .inl

/-- So all that stands in the directory for outputs can be accounted for, after any requests. -/
theorem serve_shelf (hOpen : s.IsOpen here w.disk) (requests : List Request)
    (h : s.Shelf here courses zips name w.disk) :
    s.Shelf here (fun c => courses c ∨ ∃ r ∈ requests, r.Brings c)
      (fun z => zips z ∨ ∃ source report, .ok (.converted source report z) ∈ (s.serve requests w).1)
      name (s.serve requests w).2.disk := by
  induction requests generalizing w courses zips with
  | nil => exact h.mono .inl .inl
  | cons r rest ih =>
    rw [serve_cons]
    refine (ih (answer_isOpen hLaid hOpen r) (answer_shelf hLaid hOpen r h)).mono ?_ ?_
    · rintro ((hBefore | hBrings) | ⟨later, hMem, hBrings⟩)
      · exact .inl hBefore
      · exact .inr ⟨r, List.mem_cons_self, hBrings⟩
      · exact .inr ⟨later, List.mem_cons_of_mem r hMem, hBrings⟩
    · rintro ((hBefore | ⟨source, report, hTold⟩) | ⟨source, report, hTold⟩)
      · exact .inl hBefore
      · exact .inr ⟨source, report, hTold ▸ List.mem_cons_self⟩
      · exact .inr ⟨source, report, List.mem_cons_of_mem _ hTold⟩

/-- On a new site nothing else comes up in the directory for outputs. -/
theorem serve_contents (hNew : s.IsNew here w.disk) (requests : List Request) (name : String) :
    s.Shelf here (fun c => ∃ r ∈ requests, r.Brings c)
      (fun z => ∃ source report, .ok (.converted source report z) ∈ (s.serve requests w).1)
      name (s.serve requests w).2.disk := by
  have hStart : s.Shelf here (fun _ => False) (fun _ => False) name w.disk :=
    .empty (hNew.bare name)
  exact (serve_shelf hLaid hNew.toIsOpen requests hStart).mono (·.resolve_left id)
    (·.resolve_left id)

end

theorem quietWorld_isNew : ({} : Site).IsNew [] quietWorld.disk where
  toIsOpen := quietWorld_isOpen
  idle := quietWorld_uploads
  bare := Tree.hasNothing_inside_iff.mpr fun _ => quietWorld_find?_outputs

theorem lead_convert : lead .post "/convert" = .to .convert := by decide

/-- A request with a course of one file under a name. -/
def sentAs (name text : String) : Request := ⟨.post, "/convert", some ⟨name, packedSingle text⟩⟩

/-- A site with nothing in its directories converts a course of one file, if its names can be
taken. -/
theorem sentAs_converted (name : String) {text : String} {top full : Xml.Element}
    (hSuffix : Archive.hasSuffix name = true) (hFits : (⟨name, packedSingle text⟩ : Upload).Fits {})
    (hShort : ∀ d, quietWorld.disk.SameOutside [] [["uploads", safeName name]] d →
      IsShortCourse d text top full) :
    let u : Upload := ⟨name, packedSingle text⟩
    let w₁ := (({} : Site).serve [sentAs name text] quietWorld).2
    (∃ source report, (({} : Site).serve [sentAs name text] quietWorld).1 =
      [.ok (.converted source report u.zip)]) ∧
    w₁.disk.entry ⟨.relative, ["outputs", u.course]⟩ = .ok .directory ∧
    ∃ entries, w₁.disk.entry ⟨.relative, ["outputs", u.zip]⟩ = .ok (.file (.zip entries)) := by
  intro u w₁
  have hLaid : ({} : Site).IsLaidOut [] := isLaidOut_default _
  have hRun := answer_upload (r := sentAs name text) quietWorld_isOpen lead_convert
    (takeUpload_of_suffix hSuffix)
  have hFree : ({} : Site).IsFreeFor [] u quietWorld.disk := by
    refine ⟨?_, quietWorld_isNew.bare _, ?_⟩
    · rw [(quietWorld_isNew.idle _).self]
      exact nofun
    · rw [(quietWorld_isNew.bare _).self]
      exact nofun
  obtain ⟨report, hSettled⟩ := settle_short hLaid hSuffix quietWorld_isOpen hFits hFree rfl hShort
  have hServe : ({} : Site).serve [sentAs name text] quietWorld =
      ([((({} : Site).settle u).run quietWorld).1], ((({} : Site).settle u).run quietWorld).2) := by
    rw [serve_cons, hRun]
    rfl
  have hWorld : w₁ = ((({} : Site).settle u).run quietWorld).2 := congrArg Prod.snd hServe
  rw [hWorld, hServe, hSettled]
  exact ⟨⟨_, report, rfl⟩, settle_stands hLaid hSuffix quietWorld_isOpen hSettled⟩

end Site

end Coursebook.Web
