import Coursebook.Proofs.Web.Contents

/-!
# Coursebook — an upload after others

A site that has answered requests differs from a new one at names in its directory for outputs only.
An upload clears away what an earlier one has left of its course, writes over its zip archive, and
sees nothing else of them if its course refers to nothing outside. So it is answered as on a new site,
unless the two places that it needs are taken in the other way: a zip archive stands where its course
goes, or a course where its zip archive goes.

* `prepare_alike`, `convert_outcome` — one upload on two disks.
* `serve_since` — how a site differs from a new one.
* `upload_forgets_history` — both together.
* `answer_of_clash` — names that are taken in the other way.
* `zip_archive_in_the_way`, `course_described_by_directory` — two uploads that do not go together.
-/

namespace Coursebook.Web

open Files Course Converter

variable {here : Location} {cones : List Location} {names : List String} {s : Site} {u : Upload}
  {w w' w₁ : World} {name : String} {d d' : Disk} {p : Path}

theorem take_alike {α : Type} {R : World → World → Prop} {x y : Step World α}
    (h : RunsAlike R x y w w') : RunsAlike R (Converting.take x) (Converting.take y) w w' := by
  refine ⟨?_, h.state⟩
  rw [Converting.take_run, Converting.take_run, h.outcome]

/-- Whether a file can be written depends on the way to it, and on whether it is a directory. -/
theorem write_outcome (hLocate : d'.locate p = d.locate p) (c : Content)
    (hFree : d.tree.find? (d.place p) ≠ some .directory)
    (hFree' : d'.tree.find? (d.place p) ≠ some .directory) :
    ((write p c).run d').1 = ((write p c).run d).1 := by
  rw [write_run, write_run, hLocate]
  cases hReached : d.locate p with
  | error fault => rfl
  | ok l =>
    obtain rfl := Disk.locate_eq_place hReached
    dsimp only
    split
    · exact absurd ‹_› hFree'
    · rfl

/-- The course in an upload refers to nothing outside of what it is unpacked to. -/
def Upload.IsConfined (u : Upload) (s : Site) (w : World) : Prop :=
  ∀ w₁, (Archive.unpack (s.archivePath u) unpackedPath).run (opened (s.archivePath u)
      ⟨((write (s.archivePath u) u.content).run w.disk).2, w.notices⟩) = (.ok (), w₁) →
    CourseConfined w₁.disk unpackedPath (Registry.standard {}).kinds

namespace Site

/-! ## Names in the directory for outputs -/

theorem owns_inside (s : Site) (here : Location) (names : List String) :
    s.Owns here (inside (s.outputsAt here) names) := by
  intro k hk
  obtain ⟨name, -, rfl⟩ := mem_inside.mp hk
  exact ⟨name, .inr rfl⟩

section

variable (hLaid : s.IsLaidOut here)

include hLaid

theorem avoids_inside_upload (hName : IsPlainName name) (names : List String) :
    (s.uploads.below [name]).Avoids here (inside (s.outputsAt here) names) := by
  refine avoids_below_plain hName hLaid.uploads_down fun k hk => ?_
  obtain ⟨other, -, rfl⟩ := mem_inside.mp hk
  exact ((hLaid.apart_inside name other).symm _ (List.mem_singleton_self _)).1

/-- A name is out of the way of others. -/
theorem isClear_inside (hName : IsPlainName name) (hOther : name ∉ names) :
    (s.outputs.below [name]).IsClear here (inside (s.outputsAt here) names) := by
  have hApart := apart_inside_of_not_mem (l := s.outputsAt here) hOther
  refine ⟨avoids_below_plain hName hLaid.outputs_down fun k hk => (hApart k hk).1, ?_⟩
  rw [place_below_plain hName rfl]
  exact hApart

/-- The way to any name is the same, whatever the differences at names are. -/
theorem locate_inside (hSame : d.SameOutside here (inside (s.outputsAt here) names) d')
    (name : String) : d'.locate (s.outputs.below [name]) = d.locate (s.outputs.below [name]) := by
  refine hSame.locate_of_above fun n hn => not_covered_iff.mpr fun k hk hAbove => ?_
  rw [Path.below_names, List.length_append, List.length_singleton, Nat.lt_succ_iff] at hn
  rw [Path.upTo_below_of_le hn] at hAbove
  obtain ⟨other, -, rfl⟩ := mem_inside.mp hk
  have hLength := (hAbove.trans (Disk.place_upTo_prefix _ hLaid.outputs_down n)).length_le
  simp [outputsAt] at hLength

end

/-- Disks that have nothing at a name do not differ there. -/
theorem sameOutside_filter (hSame : w.SameOutside here (inside (s.outputsAt here) names) w')
    (hNothing : w.disk.tree.HasNothing (s.outputsAt here ++ [name]))
    (hNothing' : w'.disk.tree.HasNothing (s.outputsAt here ++ [name])) :
    w.SameOutside here (inside (s.outputsAt here) (names.filter (· ≠ name))) w' := by
  refine Disk.SameOutside.of_clear (Disk.SameOutside.mono hSame fun k hk => ?_) hNothing.not_mem
    hNothing'.not_mem
  obtain ⟨other, hMem, rfl⟩ := mem_inside.mp hk
  by_cases hEq : other = name
  · exact hEq ▸ List.mem_cons_self
  · exact List.mem_cons_of_mem _ (mem_inside.mpr ⟨other, by simpa using ⟨hMem, hEq⟩, rfl⟩)

/-! ## One upload on two disks -/

section

variable (hLaid : s.IsLaidOut here) (hu : Archive.hasSuffix u.name = true)

include hLaid hu

theorem writeArchive_alike (hSame : w.SameOutside here (inside (s.outputsAt here) names) w') :
    RunsAlike (World.SameOutside here (inside (s.outputsAt here) names))
      (Converting.take (World.change (write (s.archivePath u) u.content)))
      (Converting.take (World.change (write (s.archivePath u) u.content))) w w' := by
  refine take_alike (change_alike (write_alike hSame ?_ _))
  rw [archivePath_eq s hu]
  exact avoids_inside_upload hLaid (isPlainName_safeName hu) names

/-- The course is converted alike beside others, where nothing is left of it. -/
theorem convertCourse_alike (hOpen : s.IsOpen here w.disk) (hOther : u.course ∉ names)
    (hSame : w.SameOutside here (inside (s.outputsAt here) names) w')
    (hConfined : ∀ w₁, (Archive.unpack (s.archivePath u) unpackedPath).run
        (opened (s.archivePath u) w) = (.ok (), w₁) →
      CourseConfined w₁.disk unpackedPath (Registry.standard {}).kinds) :
    RunsAlike (World.SameOutside here (inside (s.outputsAt here) names))
      (Converting.take ((standard {}).convert (s.archivePath u) s.outputs))
      (Converting.take ((standard {}).convert (s.archivePath u) s.outputs)) w w' := by
  have hPlain := isPlainName_course hu
  have hPath : courseDirectory s.outputs (s.archivePath u) = s.outputs.below [u.course] :=
    coursePath_eq s hu
  have hWorkshop (names : List String) :
      Apart (inside (s.outputsAt here) names) (w.disk.place workshop) := by
    rw [Disk.SameOutside.place_eq hOpen.here_eq]
    exact hLaid.apart_workshop (owns_inside s here names)
  have hArchive : (s.archivePath u).Avoids here (inside (s.outputsAt here) names) := by
    rw [archivePath_eq s hu]
    exact avoids_inside_upload hLaid (isPlainName_safeName hu) names
  have hOwn := isOutput_of_isThere (Disk.isThere_of_entry hOpen.outputs) hOpen.here_eq hPlain.ne_up
  rw [hOpen.place_outputs] at hOwn
  have hClear := isClear_inside hLaid hPlain hOther
  rw [← hPath] at hOwn hClear
  exact take_alike (convert_alike ⟨by decide, by decide⟩ hSame hOpen.room (hWorkshop names) hArchive
    hClear hOwn (hWorkshop [u.course]) hConfined)

/-- What an earlier upload has left is cleared away, so that it makes no difference; or its name is
too long on both disks. -/
theorem clearCourse_alike (hOpen : s.IsOpen here w.disk) (hOpen' : s.IsOpen here w'.disk)
    (hSame : w.SameOutside here (inside (s.outputsAt here) names) w')
    (hNothing : w.disk.tree.HasNothing (s.outputsAt here ++ [u.course]))
    (hKind : w'.disk.tree.IsDirectoryOrNothing (s.outputsAt here ++ [u.course])) :
    SucceedAlike (fun w₁ w₁' => w₁ = w ∧
        w.SameOutside here (inside (s.outputsAt here) (names.filter (· ≠ u.course))) w₁')
      (clearDirectory (s.coursePath u)) (clearDirectory (s.coursePath u)) w w' := by
  have hLocate : w'.disk.locate (s.coursePath u) = w.disk.locate (s.coursePath u) := by
    rw [coursePath_eq s hu]
    exact locate_inside hLaid hSame _
  rcases clearCourse_cases hu hOpen' hKind with ⟨hReached, w₁', hRun', hNothing'⟩ | ⟨hLong, hRun'⟩
  · -- there it is removed, here there is nothing to remove: so far as the name goes both are the same
    rw [hLocate] at hReached
    have hCleared := (clearCourse_edited (s := s) (w := w') hu hOpen'.here_eq).same
    rw [hRun'] at hCleared
    have hMore : inside (s.outputsAt here) names ⊆ inside (s.outputsAt here) (u.course :: names) :=
      List.subset_cons_self _ _
    have hSame₁ : w.SameOutside here (inside (s.outputsAt here) (u.course :: names)) w₁' :=
      (Disk.SameOutside.mono hSame hMore).trans (Disk.SameOutside.mono hCleared (by simp [inside]))
    have hFiltered := sameOutside_filter hSame₁ hNothing hNothing'
    rw [List.filter_cons_of_neg (by simp)] at hFiltered
    exact (RunsAlike.of_run (clearDirectory_of_none hReached hNothing.self) hRun'
      ⟨rfl, hFiltered⟩).succeed
  · -- how long a name is does not depend on the disk
    rcases clearCourse_cases hu hOpen (.inr hNothing) with ⟨hReached, -⟩ | ⟨-, hRun⟩
    · rw [← hLocate, hLong] at hReached
      cases hReached
    · refine ⟨by rw [hRun, hRun'], fun hOk => ?_⟩
      rw [hRun] at hOk
      cases hOk

/-- Up to its zip archive an upload does the same on a new site and on one that has answered others,
where no zip archive stands in place of its course. -/
theorem prepare_alike (hNew : s.IsNew here w.disk) (hOpen' : s.IsOpen here w'.disk)
    (hSame : w.SameOutside here (inside (s.outputsAt here) names) w')
    (hKind : w'.disk.tree.IsDirectoryOrNothing (s.outputsAt here ++ [u.course]))
    (hConfined : u.IsConfined s w) :
    SucceedAlike
      (World.SameOutside here (inside (s.outputsAt here) (names.filter (· ≠ u.course))))
      (s.prepare u) (s.prepare u) w w' := by
  have hWritten := (writeArchive_edited (s := s) (w := w) hu hNew.here_eq).same
  have hWritten' := (writeArchive_edited (s := s) (w := w') hu hOpen'.here_eq).same
  refine (writeArchive_alike hLaid hu hSame).succeed.bind fun _ w₁ w₁' hRun hRun' hSame₁ => ?_
  rw [hRun] at hWritten
  rw [hRun'] at hWritten'
  have hOpen₁ := hNew.toIsOpen.same hLaid (owns_upload s here _) hWritten
  have hOpen₁' := hOpen'.same hLaid (owns_upload s here _) hWritten'
  -- the archive is written elsewhere, so it changes nothing in place of the course
  have hNothing (l : List String) :
      w₁.disk.tree.find? (s.outputsAt here ++ [u.course] ++ l) = none :=
    (Disk.SameOutside.find? hWritten ((hLaid.apart_inside _ _).not_covered l)).trans
      (hNew.bare u.course l)
  have hLeft := Disk.SameOutside.makesOrLeaves hWritten' (hLaid.apart_inside _ u.course)
  have hKind₁ := hLeft.isDirectoryOrNothing hKind
  refine (clearCourse_alike hLaid hu hOpen₁ hOpen₁' hSame₁ hNothing hKind₁).bind
    fun _ w₂ w₂' _ _ hCleared => ?_
  obtain ⟨rfl, hFiltered⟩ := hCleared
  -- with its name cleared the course does not come across any that the disks differ in
  have hWorld : w₂ = ⟨((write (s.archivePath u) u.content).run w.disk).2, w.notices⟩ :=
    (congrArg Prod.snd hRun).symm
  exact (convertCourse_alike hLaid hu hOpen₁ (by simp) hFiltered (hWorld ▸ hConfined)).succeed

/-- A conversion ends alike, if no course stands in place of its zip archive either. -/
theorem convert_outcome (hNew : s.IsNew here w.disk) (hOpen' : s.IsOpen here w'.disk)
    (hSame : w.SameOutside here (inside (s.outputsAt here) names) w')
    (hKind : w'.disk.tree.IsDirectoryOrNothing (s.outputsAt here ++ [u.course]))
    (hZip : w'.disk.tree.find? (s.outputsAt here ++ [u.zip]) ≠ some .directory)
    (hConfined : u.IsConfined s w) :
    ((s.convert u).run w').1 = ((s.convert u).run w).1 := by
  have hPrepared := (prepare_edited hLaid hu hNew.toIsOpen).same
  have hPrepared' := (prepare_edited hLaid hu hOpen').same
  rw [convert_eq]
  refine (SucceedAlike.bind (R := fun _ _ => True)
    (prepare_alike hLaid hu hNew hOpen' hSame hKind hConfined)
    fun report w₁ w₁' hRun hRun' hSame₁ => ?_).outcome
  rw [hRun] at hPrepared
  rw [hRun'] at hPrepared'
  -- the course is the same on both disks, and the place of its zip archive has not been touched
  have hEntries : Archive.zipEntries w₁'.disk (s.coursePath u) =
      Archive.zipEntries w₁.disk (s.coursePath u) := by
    have hClear := isClear_inside hLaid (isPlainName_course hu)
      (by simp : u.course ∉ names.filter (· ≠ u.course))
    rw [← coursePath_eq s hu] at hClear
    rw [Archive.zipEntries, Disk.SameOutside.listAll_of_isClear hSame₁ hClear]
    rfl
  have hApart := hLaid.apart_touched (zip_ne_course u)
  have hFree := Disk.SameOutside.find? hPrepared (hApart.not_covered [])
  have hFree' := Disk.SameOutside.find? hPrepared' (hApart.not_covered [])
  rw [hNew.bare u.zip [], List.append_nil] at hFree
  rw [List.append_nil] at hFree'
  have hPlace : w₁.disk.place (s.outputs.below [u.zip]) = s.outputsAt here ++ [u.zip] :=
    place_below_plain (isPlainName_zip hu) (Disk.SameOutside.here_eq hSame₁) _
  have hWrite := write_outcome (locate_inside hLaid hSame₁ u.zip)
    (.zip (Archive.zipEntries w₁.disk (s.coursePath u)))
    (by rw [hPlace, hFree]; exact nofun) (by rw [hPlace, hFree']; exact hZip)
  have hPack : ((s.pack u).run w₁').1 = ((s.pack u).run w₁).1 := by
    rw [pack_run, pack_run, zipPath_eq s hu, hEntries]
    dsimp only
    rw [hWrite]
  exact SucceedAlike.bind (Q := fun _ _ => True) ⟨hPack, fun _ _ => trivial⟩
    fun _ _ _ _ _ _ => ⟨rfl, fun _ _ => trivial⟩

/-- So the upload is answered alike. -/
theorem settle_outcome (hNew : s.IsNew here w.disk) (hIdle : s.IsIdle here w'.disk)
    (hSame : w.SameOutside here (inside (s.outputsAt here) names) w')
    (hKind : w'.disk.tree.IsDirectoryOrNothing (s.outputsAt here ++ [u.course]))
    (hZip : w'.disk.tree.find? (s.outputsAt here ++ [u.zip]) ≠ some .directory)
    (hConfined : u.IsConfined s w) :
    ((s.settle u).run w').1 = ((s.settle u).run w).1 := by
  rw [(settle_removes hLaid hu hNew.toIsOpen (hNew.idle _)).1,
    (settle_removes hLaid hu hIdle.toIsOpen (hIdle.idle _)).1,
    convert_outcome hLaid hu hNew hIdle.toIsOpen hSame hKind hZip hConfined]

end

/-! ## Any requests -/

section

variable (hLaid : s.IsLaidOut here)

include hLaid

theorem answer_since (hIdle : s.IsIdle here w.disk) (r : Request) :
    s.IsIdle here ((s.answer r).run w).2.disk ∧
      ∃ names, w.SameOutside here (inside (s.outputsAt here) names) ((s.answer r).run w).2 := by
  have hOpen := hIdle.toIsOpen
  rcases s.answer_cases r w with ⟨u, -, hu, hAnswer⟩ | ⟨-, hSame⟩
  · rw [hAnswer, answerUpload_eq, run_bind_of_ok (opening_of_isOpen hOpen)]
    exact ⟨⟨settle_isOpen hLaid hu hOpen, settle_uploads hLaid hu hOpen hIdle.idle⟩,
      [u.course, u.zip], (settle_results hLaid hu hOpen (hIdle.idle _)).same⟩
  · rw [hSame]
    exact ⟨hIdle, [], .refl _ hIdle.here_eq⟩

/-- After any requests a site is the same but for some names in its directory for outputs. -/
theorem serve_since (hIdle : s.IsIdle here w.disk) (requests : List Request) :
    s.IsIdle here (s.serve requests w).2.disk ∧
      ∃ names, w.SameOutside here (inside (s.outputsAt here) names) (s.serve requests w).2 := by
  induction requests generalizing w with
  | nil => exact ⟨hIdle, [], .refl _ hIdle.here_eq⟩
  | cons r rest ih =>
    obtain ⟨hIdle₁, names, hSame⟩ := answer_since hLaid hIdle r
    obtain ⟨hRest, more, hSameRest⟩ := ih hIdle₁
    rw [serve_cons]
    refine ⟨hRest, names ++ more, (Disk.SameOutside.mono hSame ?_).trans
      (Disk.SameOutside.mono hSameRest ?_)⟩
    · exact List.map_subset _ (List.subset_append_left names more)
    · exact List.map_subset _ (List.subset_append_right names more)

end

/-- Where the course of an upload goes, there is the zip archive of another course, of which an answer
has told; or where its zip archive goes, there is another course that has been uploaded. -/
inductive Clash (s : Site) (before : List Request) (w : World) (u : Upload) : Prop where
  | course {source : String} {report : Report} {entries : List ZipEntry}
      (told : .ok (.converted source report u.course) ∈ (s.serve before w).1)
      (file : (s.serve before w).2.disk.entry (s.outputs.below [u.course]) =
        .ok (.file (.zip entries)))
  | zip {r : Request} (come : r ∈ before) (brings : r.Brings u.zip)
      (directory : (s.serve before w).2.disk.tree.find?
        ((s.serve before w).2.disk.place s.outputs ++ [u.zip]) = some .directory)

section

variable (hLaid : s.IsLaidOut here)

include hLaid

/-- Either no name that an upload needs is taken in the other way, or that is a clash. -/
theorem serve_clash (hNew : s.IsNew here w.disk) (before : List Request) :
    (s.serve before w).2.disk.tree.IsDirectoryOrNothing (s.outputsAt here ++ [u.course]) ∧
        (s.serve before w).2.disk.tree.find? (s.outputsAt here ++ [u.zip]) ≠ some .directory ∨
      s.Clash before w u := by
  have hOpen := serve_isOpen hLaid hNew.toIsOpen before
  have hFile {name : String} {c : Content} (hName : IsPlainName name)
      (h : (s.serve before w).2.disk.entry (s.outputs.below [name]) = .ok (.file c)) :
      (s.serve before w).2.disk.tree.find? (s.outputsAt here ++ [name]) = some (.file c) := by
    have hFind := (Disk.entry_eq_ok h).2
    rwa [place_below_plain hName hOpen.here_eq] at hFind
  by_cases hDir : (s.serve before w).2.disk.tree.find? (s.outputsAt here ++ [u.zip]) =
      some .directory
  · right
    cases serve_contents hLaid hNew before u.zip with
    | empty nothing =>
      rw [nothing.self] at hDir
      cases hDir
    | course come directory =>
      obtain ⟨earlier, hMem, hBrings⟩ := come
      exact .zip hMem hBrings (hOpen.place_outputs ▸ directory)
    | zip told plain file below =>
      rw [hFile plain file] at hDir
      cases hDir
  · cases serve_contents hLaid hNew before u.course with
    | empty nothing => exact .inl ⟨.inr nothing, hDir⟩
    | course come directory => exact .inl ⟨.inl directory, hDir⟩
    | zip told plain file below =>
      obtain ⟨source, report, hTold⟩ := told
      exact .inr (.course hTold file)

/-- What is not converted is answered with a failure. -/
theorem settle_failed (hu : Archive.hasSuffix u.name = true) (hIdle : s.IsIdle here w.disk)
    (hNot : ∀ source report zip, ((s.settle u).run w).1 ≠ .ok (.converted source report zip)) :
    ∃ message, ((s.settle u).run w).1 = .ok (.failed message) := by
  have hAnswer := (settle_removes hLaid hu hIdle.toIsOpen (hIdle.idle _)).1
  cases hOutcome : ((s.convert u).run w).1 with
  | ok report =>
    rw [hOutcome] at hAnswer
    exact absurd hAnswer (hNot _ _ _)
  | error e => exact ⟨e.message, by rw [hAnswer, hOutcome]; rfl⟩

/-- Where names clash, nothing is converted. -/
theorem settle_of_clash (hu : Archive.hasSuffix u.name = true) {before : List Request}
    (hIdle : s.IsIdle here (s.serve before w).2.disk) (h : s.Clash before w u) :
    ∃ message, ((s.settle u).run (s.serve before w).2).1 = .ok (.failed message) := by
  refine settle_failed hLaid hu hIdle fun source report zip hConverted => ?_
  cases h with
  | course told file =>
    rw [← coursePath_eq s hu] at file
    obtain ⟨⟨e, hError⟩, -⟩ := prepare_of_file hLaid hu hIdle.here_eq file
    rcases settle_cases hLaid hu hIdle.toIsOpen with ⟨_, _, hRun, -⟩ | ⟨hNot, -⟩
    · rw [hRun] at hError
      cases hError
    · exact hNot _ _ _ hConverted
  | zip come brings directory =>
    rw [hIdle.place_outputs] at directory
    exact ne_directory_of_converted hLaid hu hIdle.toIsOpen hConverted directory

end

/--
**Uploads do not depend on what came before.** A site starts with nothing in its directories, and
answers any requests. Then a request to convert something is answered as it is when it comes first, if
the course in it refers to nothing outside of what it is unpacked to, and neither it nor its zip
archive needs a name that an earlier upload has taken in the other way.
-/
theorem upload_forgets_history {s : Site} {w : World} {r : Request}
    (hLaid : s.IsLaidOut w.disk.here) (hNew : s.IsNew w.disk.here w.disk)
    (hLead : lead r.method r.target = .to .convert) (before : List Request)
    (hUpload : ∀ u, takeUpload r.upload = .ok u → u.IsConfined s w ∧ ¬ s.Clash before w u) :
    ((s.answer r).run (s.serve before w).2).1 = ((s.answer r).run w).1 := by
  obtain ⟨hIdle, names, hSame⟩ := serve_since hLaid hNew.toIsIdle before
  cases hTake : takeUpload r.upload with
  | error reason =>
    unfold answer
    rw [hLead, hTake]
    rfl
  | ok u =>
    obtain ⟨-, hu⟩ := takeUpload_eq_ok hTake
    obtain ⟨hConfined, hNoClash⟩ := hUpload u hTake
    obtain ⟨hKind, hZip⟩ := (serve_clash (u := u) hLaid hNew before).resolve_right hNoClash
    rw [answer_upload hIdle.toIsOpen hLead hTake, answer_upload hNew.toIsOpen hLead hTake]
    exact settle_outcome hLaid hu hNew hIdle hSame hKind hZip hConfined

/-- Where names clash, the answer is a failure. -/
theorem answer_of_clash {s : Site} {w : World} {r : Request} {u : Upload}
    (hLaid : s.IsLaidOut w.disk.here) (hNew : s.IsNew w.disk.here w.disk)
    (hLead : lead r.method r.target = .to .convert) (hTake : takeUpload r.upload = .ok u)
    {before : List Request} (h : s.Clash before w u) :
    ∃ message, ((s.answer r).run (s.serve before w).2).1 = .ok (.failed message) := by
  have hIdle := (serve_since hLaid hNew.toIsIdle before).1
  rw [answer_upload hIdle.toIsOpen hLead hTake]
  exact settle_of_clash hLaid (takeUpload_eq_ok hTake).2 hIdle h

/-! ## Two uploads -/

/-- A course of one file is confined. -/
theorem isConfined_single {text : String} {element : Xml.Element}
    (hu : Archive.hasSuffix u.name = true) (hLaid : s.IsLaidOut here) (hNew : s.IsNew here w.disk)
    (hFits : u.Fits s) (hContent : u.content = packedSingle text)
    (hBare : IsBareCourse text element) : u.IsConfined s w := by
  have hFree : w.disk.tree.find? (s.uploadsAt here ++ [safeName u.name]) ≠ some .directory := by
    rw [(hNew.idle _).self]
    exact nofun
  obtain ⟨w₁, hWritten⟩ := writeArchive_ok hu hNew.toIsOpen hFits hFree
  have hEntry := write_entry (World.change_eq_ok (take_eq_ok hWritten))
  have hEdited := writeArchive_edited (s := s) (w := w) hu hNew.here_eq
  rw [hWritten] at hEdited
  have hRoom := (hNew.toIsOpen.same hLaid (owns_upload s here _) hEdited.same).room
  have hWorld : w₁ = ⟨((write (s.archivePath u) u.content).run w.disk).2, w.notices⟩ :=
    (congrArg Prod.snd hWritten).symm
  intro w₂ hRun
  rw [← hWorld] at hRun
  exact hRoom.confined_single (hContent ▸ Disk.read_of_entry hEntry) hBare hRun _

/-- Two courses under different names, one after the other. -/
theorem second_course_alike :
    let s : Site := {}
    let second := sentAs "b.tar.gz" "<course/>"
    ((s.answer second).run (s.serve [sentAs "a.tar.gz" "<course/>"] quietWorld).2).1 =
      ((s.answer second).run quietWorld).1 := by
  intro s second
  have hFits : (⟨"b.tar.gz", packedSingle "<course/>"⟩ : Upload).Fits {} := by decide
  refine upload_forgets_history (isLaidOut_default _) quietWorld_isNew (by decide)
    [sentAs "a.tar.gz" "<course/>"] fun u hTake => ?_
  obtain rfl : ⟨"b.tar.gz", packedSingle "<course/>"⟩ = u := Except.ok.inj hTake
  refine ⟨isConfined_single (by decide) (isLaidOut_default _) quietWorld_isNew hFits rfl
    bare_untitled, fun hClash => ?_⟩
  obtain ⟨⟨source, report, hAnswers⟩, -⟩ := sentAs_converted "a.tar.gz"
    (by decide) sentCourse_fits fun _ _ => isShortCourse_of_bare bare_untitled _
  cases hClash with
  | course told file =>
    rw [hAnswers, List.mem_singleton] at told
    exact absurd (Response.converted.inj (Except.ok.inj told)).2.2 (by decide)
  | zip come brings directory =>
    obtain rfl := List.mem_singleton.mp come
    obtain ⟨v, hSent, -, hCourse⟩ := brings
    cases hSent
    exact absurd hCourse (by decide)

/-- A conversion that an upload asks for when it comes first. -/
theorem answer_sentAs {name text : String} {source : String} {report : Report} {zip : String}
    (h : (({} : Site).serve [sentAs name text] quietWorld).1 =
      [.ok (.converted source report zip)]) :
    ((({} : Site).answer (sentAs name text)).run quietWorld).1 = .ok (.converted source report zip) :=
  (List.cons.inj h).1

/-- A course that is described in a file outside, in the directory for outputs. -/
def pointingOut : Xml.Element := ⟨"course", [("url_name", "/outputs/x")], []⟩

/-- The file that it is described in. -/
def describedOut : Path := ⟨.slash, ["outputs", "x.xml"]⟩

theorem readXml_pointingOut (d : Disk) (p : Path)
    (h : d.read p = .ok (.ofText "<course url_name='/outputs/x'/>")) :
    readXml d p = .ok pointingOut :=
  readXml_of_start h (by cbv) (by cbv)

theorem describedOut_avoids (hCones : ∀ k ∈ cones, ¬ k <+: ["outputs", "x.xml"]) :
    describedOut.Avoids [] cones :=
  Path.avoids_of_down (by decide) hCones

/-- Without that file the course is described in the one that it starts with. -/
theorem describingElement_pointingOut (h : d.has describedOut = .ok false) :
    describingElement d unpackedPath pointingOut = .ok pointingOut := by
  show (do if ← ofDisk (d.has describedOut) then readXml d describedOut else .ok pointingOut) = _
  rw [h]
  rfl

/-- A directory describes no course. -/
theorem describingElement_pointingOut_fails (h : d.entry describedOut = .ok .directory) :
    describingElement d unpackedPath pointingOut =
      .error (.file ⟨.isDirectory, describedOut⟩) := by
  have hHas : d.has describedOut = .ok true := Disk.ask_of_entry h _
  show (do if ← ofDisk (d.has describedOut) then readXml d describedOut else .ok pointingOut) = _
  rw [hHas]
  show readXml d describedOut = _
  rw [readXml, Disk.read, h]
  rfl

/-- A request that has a course converted on a new site, and fails after another one. -/
structure FailsAfter (first second : Request) : Prop where
  converted : ∃ source report zip,
    ((({} : Site).answer second).run quietWorld).1 = .ok (.converted source report zip)
  failed : ∃ message,
    ((({} : Site).answer second).run (({} : Site).serve [first] quietWorld).2).1 =
      .ok (.failed message)

/-- A course has the name of a zip archive that is there already. -/
theorem zip_archive_in_the_way :
    FailsAfter (sentAs "a.tar.gz" "<course/>") (sentAs "a_liascript.zip.tar.gz" "<course/>") := by
  have hLaid : ({} : Site).IsLaidOut quietWorld.disk.here := isLaidOut_default _
  have hSuffix : Archive.hasSuffix "a_liascript.zip.tar.gz" = true := by decide
  have hShort (d : Disk) : IsShortCourse d "<course/>" untitled untitled :=
    isShortCourse_of_bare bare_untitled d
  constructor
  · obtain ⟨⟨source, report, hAnswers⟩, -⟩ :=
      sentAs_converted _ hSuffix (by decide) fun _ _ => hShort _
    exact ⟨source, report, _, answer_sentAs hAnswers⟩
  · obtain ⟨⟨source, report, hAnswers⟩, -, entries, hFile⟩ := sentAs_converted "a.tar.gz"
      (by decide) sentCourse_fits fun _ _ => hShort _
    have hZip : (⟨"a.tar.gz", packedSingle "<course/>"⟩ : Upload).zip = "a_liascript.zip" := by
      decide
    have hCourse : (⟨"a_liascript.zip.tar.gz", packedSingle "<course/>"⟩ : Upload).course =
        "a_liascript.zip" := by
      decide
    rw [hZip, ← hCourse] at hAnswers hFile
    exact answer_of_clash hLaid quietWorld_isNew lead_convert (takeUpload_of_suffix hSuffix)
      (.course (hAnswers ▸ List.mem_singleton_self _) hFile)

/-- A course is described where the directory of another course is. -/
theorem course_described_by_directory :
    FailsAfter (sentAs "x.xml.tar.gz" "<course/>")
      (sentAs "b.tar.gz" "<course url_name='/outputs/x'/>") := by
  have hLaid : ({} : Site).IsLaidOut quietWorld.disk.here := isLaidOut_default _
  have hSuffix : Archive.hasSuffix "b.tar.gz" = true := by decide
  constructor
  · have hShort (d : Disk)
        (hSame : quietWorld.disk.SameOutside [] [["uploads", safeName "b.tar.gz"]] d) :
        IsShortCourse d "<course url_name='/outputs/x'/>" pointingOut pointingOut := by
      refine ⟨readXml_pointingOut, fun d' hUnpacked => describingElement_pointingOut ?_, rfl⟩
      rw [hSame.here_eq', hSame.place] at hUnpacked
      have hBoth := (hSame.mono (List.subset_cons_self (quietWorld.disk.place workshop) _)).trans
        (hUnpacked.mono (List.cons_subset_cons _ (List.nil_subset _)))
      refine (hBoth.ask (describedOut_avoids (by decide)) _).trans ?_
      cbv
    obtain ⟨⟨source, report, hAnswers⟩, -⟩ := sentAs_converted _ hSuffix (by decide) hShort
    exact ⟨source, report, _, answer_sentAs hAnswers⟩
  · obtain ⟨-, hDirectory, -⟩ := sentAs_converted "x.xml.tar.gz" (by decide) (by decide)
      fun _ _ => isShortCourse_of_bare bare_untitled _
    have hIdle := (serve_since hLaid quietWorld_isNew.toIsIdle [sentAs "x.xml.tar.gz" "<course/>"]).1
    rw [answer_upload hIdle.toIsOpen lead_convert (takeUpload_of_suffix hSuffix)]
    refine settle_failed hLaid hSuffix hIdle (settle_of_unreadable hLaid hSuffix hIdle.toIsOpen rfl
      readXml_pointingOut fun d hSame => describingElement_pointingOut_fails ?_)
    -- the way from the root is that from the working directory
    have hStands : (({} : Site).serve [sentAs "x.xml.tar.gz" "<course/>"] quietWorld).2.disk.entry
        describedOut = .ok .directory := by
      obtain ⟨hLocate, hFind⟩ := Disk.entry_eq_ok hDirectory
      have hWalk := Disk.walk_of_locate hLocate
      rw [Disk.start, hIdle.here_eq] at hWalk
      refine Disk.entry_of_locate ?_ hFind
      rw [Disk.locate_eq_walk _ ⟨by decide, by decide⟩]
      exact hWalk
    refine (hSame.entry (describedOut_avoids ?_)).trans hStands
    rw [Disk.SameOutside.place_eq hIdle.here_eq]
    decide

/-- An upload can fail after another one: where the zip archive of that one stands in its way, and
where its course refers to the place of that one. -/
theorem earlier_upload_matters :
    FailsAfter (sentAs "a.tar.gz" "<course/>") (sentAs "a_liascript.zip.tar.gz" "<course/>") ∧
      FailsAfter (sentAs "x.xml.tar.gz" "<course/>")
        (sentAs "b.tar.gz" "<course url_name='/outputs/x'/>") :=
  ⟨zip_archive_in_the_way, course_described_by_directory⟩

end Site

end Coursebook.Web
