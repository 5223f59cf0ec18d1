import Coursebook.Proofs.Conversion.Single
import Coursebook.Proofs.Conversion.Standing
import Coursebook.Proofs.Files.Removal
import Coursebook.Proofs.Web.UploadName

/-!
# Coursebook — what requests do to the disk

A site has a directory for uploads and one for outputs, and an upload touches three things in them:
its archive, the directory of its course, and the zip archive of the course. The directories
themselves and the room for the workshop stay, so that whatever holds after one request can be told
of any sequence of them.

* `prepare_edited` — up to the zip archive, which comes last.
* `settle_cases` — the two ways in which an upload ends.
* `answer_serves`, `serve_serves` — one request, and all.
-/

namespace Coursebook.Web

open Files Converter

variable {here : Location} {cones : List Location} {s : Site} {u : Upload} {d d' : Disk}
  {w w₁ w₂ : World} {p : Path}

/-! ## Steps -/

theorem Answering.change_run {α : Type} (x : Change α) (w : World) :
    (Answering.change x).run w =
      ((x.run w.disk).1.mapError .file, { w with disk := (x.run w.disk).2 }) := rfl

theorem Answering.attempt_run {α : Type} (x : Converting α) (w : World) :
    (Answering.attempt x).run w = (.ok (x.run w).1, (x.run w).2) := rfl

theorem Converting.take_run {α : Type} (x : Step World α) (w : World) :
    (Converting.take x).run w = ((x.run w).1.mapError .conversion, (x.run w).2) := rfl

theorem take_eq_ok {α : Type} {x : Step World α} {a : α} (h : (Converting.take x).run w = (.ok a, w₁)) :
    x.run w = (.ok a, w₁) := by
  rw [Converting.take_run] at h
  rcases hRun : x.run w with ⟨outcome, w₂⟩
  rw [hRun] at h
  cases outcome with
  | error e => cases h
  | ok b =>
    cases h
    rfl

/-- A file that has been written is there. -/
theorem write_entry {c : Content} (h : (write p c).run d = (.ok (), d')) :
    d'.entry p = .ok (.file c) := by
  have hGrows := write_grows d p c fun _ => False
  rw [h] at hGrows
  obtain ⟨l, hLocate, hNot, rfl⟩ := write_eq_ok h
  exact Disk.entry_of_locate (hGrows.locate hLocate)
    (d.find?_put_self (Tree.ne_nil_of_find? hNot) _)

/-- A file that cannot be written changes nothing. -/
theorem write_eq_error {c : Content} {e : FileError} (h : (write p c).run d = (.error e, d')) :
    d' = d := by
  rw [write_run] at h
  split at h
  · exact (Prod.mk.inj h).2.symm
  · split at h
    · exact (Prod.mk.inj h).2.symm
    · cases h

theorem clearDirectory_run (p : Path) (w : World) :
    (clearDirectory p).run w =
      match w.disk.has p, w.disk.isDirectory p with
      | .error e, _ => (.error (.conversion (.file e)), w)
      | .ok false, _ => (.ok (), w)
      | .ok true, .error e => (.error (.conversion (.file e)), w)
      | .ok true, .ok true => (.ok (), { w with disk := w.disk.remove p })
      | .ok true, .ok false => (.error (.notCleared ⟨.notDirectory, p⟩), w) := by
  have hHas : (Converting.take (World.ask (·.has p))).run w =
      ((w.disk.has p |>.mapError Failure.file).mapError .conversion, w) := rfl
  have hIs : (Converting.take (World.ask (·.isDirectory p))).run w =
      ((w.disk.isDirectory p |>.mapError Failure.file).mapError .conversion, w) := rfl
  rw [clearDirectory, run_bind_of_ok (run_get w), run_bind, hHas]
  cases w.disk.has p with
  | error e => rfl
  | ok there =>
    cases there with
    | false => rfl
    | true =>
      show (Converting.take (World.ask (·.isDirectory p)) >>= _).run w = _
      rw [run_bind, hIs]
      cases w.disk.isDirectory p with
      | error e => rfl
      | ok b => cases b <;> rfl

/-- Where nothing stands, nothing is cleared away. -/
theorem clearDirectory_of_none {l : Location} (hLocate : w.disk.locate p = .ok l)
    (hNone : w.disk.tree.find? l = none) : (clearDirectory p).run w = (.ok (), w) := by
  have hHas : w.disk.has p = .ok false := Disk.ask_of_none hLocate hNone _
  rw [clearDirectory_run, hHas]

/-! ## The directories of a site -/

namespace Site

/-- Where the directory for uploads is, from the working directory. -/
def uploadsAt (s : Site) (here : Location) : Location := Disk.place ⟨{}, here⟩ s.uploads

/-- Where the directory for outputs is, from the working directory. -/
def outputsAt (s : Site) (here : Location) : Location := Disk.place ⟨{}, here⟩ s.outputs

/-- The directories of a site are in different places, neither of them in the other, nor in the
workshop or around it; and the ways there never go back. -/
structure IsLaidOut (s : Site) (here : Location) : Prop where
  uploads_down : ".." ∉ s.uploads.names
  outputs_down : ".." ∉ s.outputs.names
  apart : Apart [s.uploadsAt here] (s.outputsAt here)
  elsewhere : Apart [s.uploadsAt here, s.outputsAt here] (Disk.place ⟨{}, here⟩ workshop)

/-- The directories that a site has if nothing else is said are laid out so wherever it runs. -/
theorem isLaidOut_default (here : Location) : ({} : Site).IsLaidOut here := by
  have hUploads : ({} : Site).uploadsAt here = here ++ ["uploads"] := rfl
  have hOutputs : ({} : Site).outputsAt here = here ++ ["outputs"] := rfl
  refine ⟨by decide, by decide, ?_, ?_⟩
  · rw [hUploads, hOutputs]
    simp [Apart]
  · rw [hUploads, hOutputs, place_workshop]
    simp [Apart]

/-- What lets a site answer an upload at all: the room for the workshop. -/
structure Serves (here : Location) (d : Disk) : Prop where
  here_eq : d.here = here
  room : HasRoom d

/-- A site with both of its directories there. -/
structure IsOpen (s : Site) (here : Location) (d : Disk) : Prop extends Serves here d where
  uploads : d.entry s.uploads = .ok .directory
  outputs : d.entry s.outputs = .ok .directory

/-- Some locations right inside the directories of a site. -/
def Owns (s : Site) (here : Location) (cones : List Location) : Prop :=
  ∀ k ∈ cones, ∃ name, k = s.uploadsAt here ++ [name] ∨ k = s.outputsAt here ++ [name]

/-- The locations that an upload may change before its zip archive is written. -/
def touched (s : Site) (here : Location) (u : Upload) : List Location :=
  [s.uploadsAt here ++ [safeName u.name], s.outputsAt here ++ [u.course]]

end Site

/-- A change at or below some locations, which lists nothing twice. -/
structure Edited (here : Location) (cones : List Location) (w w' : World) : Prop where
  same : w.SameOutside here cones w'
  unique : w.disk.StaysUnique w'.disk

theorem Edited.trans (h : Edited here cones w w₁) (h' : Edited here cones w₁ w₂) :
    Edited here cones w w₂ :=
  ⟨Disk.SameOutside.trans h.same h'.same, h.unique.trans h'.unique⟩

theorem Edited.mono {more : List Location} (h : Edited here cones w w₁) (hMore : cones ⊆ more) :
    Edited here more w w₁ :=
  ⟨Disk.SameOutside.mono h.same hMore, h.unique⟩

namespace Site

theorem owns_cons {k : Location} (hk : ∃ name, k = s.uploadsAt here ++ [name] ∨
    k = s.outputsAt here ++ [name]) (h : s.Owns here cones) : s.Owns here (k :: cones) :=
  List.forall_mem_cons.mpr ⟨hk, h⟩

theorem owns_upload (s : Site) (here : Location) (name : String) :
    s.Owns here [s.uploadsAt here ++ [name]] :=
  owns_cons ⟨name, .inl rfl⟩ fun _ hk => absurd hk List.not_mem_nil

theorem owns_output (s : Site) (here : Location) (name : String) :
    s.Owns here [s.outputsAt here ++ [name]] :=
  owns_cons ⟨name, .inr rfl⟩ fun _ hk => absurd hk List.not_mem_nil

theorem owns_touched (s : Site) (here : Location) (u : Upload) : s.Owns here (s.touched here u) :=
  owns_cons ⟨_, .inl rfl⟩ (owns_output s here u.course)

/-- Names in the directory for outputs are apart. -/
theorem apart_output (s : Site) (here : Location) {name other : String} (h : name ≠ other) :
    Apart [s.outputsAt here ++ [other]] (s.outputsAt here ++ [name]) :=
  apart_inside_of_not_mem (mt List.mem_singleton.mp h)

section

variable (hLaid : s.IsLaidOut here)

include hLaid

/-- What is in a directory of a site is not above either of them. -/
theorem IsLaidOut.not_above {k : Location} (hk : ∃ name, k = s.uploadsAt here ++ [name] ∨
    k = s.outputsAt here ++ [name]) : ¬ k <+: s.uploadsAt here ∧ ¬ k <+: s.outputsAt here := by
  have hApart := hLaid.apart _ (List.mem_singleton_self _)
  have hLonger {l : Location} {name : String} : ¬ l ++ [name] <+: l := fun h => by
    simpa using h.length_le
  obtain ⟨name, rfl | rfl⟩ := hk
  · exact ⟨hLonger, fun h => hApart.1 ((List.prefix_append _ _).trans h)⟩
  · exact ⟨fun h => hApart.2 ((List.prefix_append _ _).trans h), hLonger⟩

theorem IsLaidOut.apart_workshop (hOwns : s.Owns here cones) :
    Apart cones (Disk.place ⟨{}, here⟩ workshop) := by
  have hInside {l : Location} (hl : Apart [l] (Disk.place ⟨{}, here⟩ workshop)) (name : String) :=
    (hl.symm.below [name]).symm _ (List.mem_singleton_self _)
  intro k hk
  obtain ⟨name, rfl | rfl⟩ := hOwns k hk
  · exact hInside (fun l hl => hLaid.elsewhere l (List.mem_cons.mpr (.inl (List.mem_singleton.mp hl)))) name
  · exact hInside (fun l hl => hLaid.elsewhere l (List.mem_cons_of_mem _ hl)) name

/-- Uploads and outputs are apart. -/
theorem IsLaidOut.apart_inside (name other : String) :
    Apart [s.uploadsAt here ++ [name]] (s.outputsAt here ++ [other]) :=
  ((hLaid.apart.below [other]).symm.below [name]).symm

/-- Another name in the directory for outputs is apart from what an upload touches. -/
theorem IsLaidOut.apart_touched {name : String} (h : name ≠ u.course) :
    Apart (s.touched here u) (s.outputsAt here ++ [name]) :=
  List.forall_mem_cons.mpr ⟨hLaid.apart_inside _ _ _ (List.mem_singleton_self _),
    apart_output s here h⟩

/-- What happens inside the directories of a site leaves them there. -/
theorem IsOpen.same (h : s.IsOpen here d) (hOwns : s.Owns here cones)
    (hSame : d.SameOutside here cones d') : s.IsOpen here d' := by
  have hAbove (k : Location) (hk : k ∈ cones) := hLaid.not_above (hOwns k hk)
  refine ⟨⟨hSame.here_eq', h.room.same hSame ?_⟩, ?_, ?_⟩
  · rw [Disk.SameOutside.place_eq h.here_eq]
    exact hLaid.apart_workshop hOwns
  · rw [hSame.entry (Path.avoids_of_down hLaid.uploads_down fun k hk => (hAbove k hk).1)]
    exact h.uploads
  · rw [hSame.entry (Path.avoids_of_down hLaid.outputs_down fun k hk => (hAbove k hk).2)]
    exact h.outputs

end

/-! ## Paths of an upload -/

theorem covered_of_eq {k l : Location} (h : l = k) : covered [k] l = true :=
  covered_iff.mpr ⟨k, List.mem_singleton_self k, h ▸ List.prefix_refl l⟩

/-- Where a plain name leads from a directory. -/
theorem place_below_plain {name : String} (hName : IsPlainName name) (hHere : d.here = here)
    (p : Path) : d.place (p.below [name]) = Disk.place ⟨{}, here⟩ p ++ [name] := by
  rw [d.place_below_singleton p hName.ne_up, Disk.SameOutside.place_eq hHere]

/-- The way to something in a directory avoids what it is not at or below. -/
theorem avoids_below_plain {name : String} (hName : IsPlainName name) (hDown : ".." ∉ p.names)
    (h : ∀ k ∈ cones, ¬ k <+: Disk.place ⟨{}, here⟩ p ++ [name]) :
    (p.below [name]).Avoids here cones := by
  refine Path.avoids_of_down ?_ fun k hk => ?_
  · simpa using ⟨hDown, hName.ne_up.symm⟩
  · rw [place_below_plain hName rfl]
    exact h k hk

/-! ## Before the zip archive -/

/-- What is done about an upload before its zip archive: it is written, what an earlier one has left
is removed, and its course is converted. -/
def prepare (s : Site) (u : Upload) : Converting Report := do
  Converting.take (World.change (write (s.archivePath u) u.content))
  clearDirectory (s.coursePath u)
  Converting.take ((standard {}).convert (s.archivePath u) s.outputs)

/-- What is done about a course whose archive is there: what an earlier one has left is removed, and
the course is converted. -/
def replaceCourse (s : Site) (u : Upload) : Converting Report := do
  clearDirectory (s.coursePath u)
  Converting.take ((standard {}).convert (s.archivePath u) s.outputs)

section

variable (hLaid : s.IsLaidOut here) (hu : Archive.hasSuffix u.name = true)

include hLaid hu

omit hLaid in
theorem writeArchive_edited (hHere : w.disk.here = here) :
    Edited here [s.uploadsAt here ++ [safeName u.name]] w
      ((Converting.take (World.change (write (s.archivePath u) u.content))).run w).2 := by
  have hPlace : w.disk.place (s.archivePath u) = s.uploadsAt here ++ [safeName u.name] := by
    rw [archivePath_eq s hu, place_below_plain (isPlainName_safeName hu) hHere]
    rfl
  exact ⟨write_sameOutside hHere (covered_of_eq hPlace) _, (write_edits w.disk _ _).staysUnique⟩

omit hLaid in
theorem clearCourse_edited (hHere : w.disk.here = here) :
    Edited here [s.outputsAt here ++ [u.course]] w
      ((clearDirectory (s.coursePath u)).run w).2 := by
  have hPlace : w.disk.place (s.coursePath u) = s.outputsAt here ++ [u.course] := by
    rw [coursePath_eq s hu, place_below_plain (isPlainName_course hu) hHere]
    rfl
  have hSame : Edited here [s.outputsAt here ++ [u.course]] w w := ⟨.refl _ hHere, .refl _⟩
  rw [clearDirectory_run]
  split
  · exact hSame
  · exact hSame
  · exact hSame
  · exact ⟨Disk.SameOutside.remove_of_covered hHere (covered_of_eq hPlace),
      Disk.staysUnique_remove _ _⟩
  · exact hSame

theorem convertCourse_edited (h : s.IsOpen here w.disk) :
    Edited here [s.outputsAt here ++ [u.course]] w
      ((Converting.take ((standard {}).convert (s.archivePath u) s.outputs)).run w).2 := by
  have hPlain := isPlainName_course hu
  obtain ⟨hLocate, hDir⟩ := Disk.entry_eq_ok h.outputs
  have hOutputs : w.disk.place s.outputs = s.outputsAt here := Disk.SameOutside.place_eq h.here_eq _
  have hApart : Apart [w.disk.place s.outputs ++ [u.course]] (w.disk.place workshop) := by
    rw [hOutputs, Disk.SameOutside.place_eq h.here_eq]
    exact hLaid.apart_workshop (owns_output s here u.course)
  have hSame := convert_beside (standard {}) ⟨by decide, by decide⟩ h.room hLocate hDir hPlain.ne_up
    hApart (coursePath_eq s hu)
  rw [h.here_eq, hOutputs] at hSame
  exact ⟨hSame, convert_staysUnique _ h.room _ _⟩

/-- Whether or not the course is converted, nothing but its directory is touched. -/
theorem replaceCourse_edited (h : s.IsOpen here w.disk) :
    Edited here [s.outputsAt here ++ [u.course]] w ((s.replaceCourse u).run w).2 := by
  have hCleared := clearCourse_edited (s := s) (w := w) hu h.here_eq
  refine run_bind_keeps (R := Edited here [s.outputsAt here ++ [u.course]]) .trans hCleared
    fun _ w₁ hRun _ => convertCourse_edited hLaid hu ?_
  rw [hRun] at hCleared
  exact h.same hLaid (owns_output s here u.course) hCleared.same

/-- Before that its archive is written. -/
theorem prepare_edited (h : s.IsOpen here w.disk) :
    Edited here (s.touched here u) w ((s.prepare u).run w).2 := by
  have hWritten := writeArchive_edited (s := s) (w := w) hu h.here_eq
  refine run_bind_keeps (R := Edited here (s.touched here u)) .trans
    (hWritten.mono (by simp [touched])) fun _ w₁ hRun _ => ?_
  rw [hRun] at hWritten
  have hOpen := h.same hLaid (owns_upload s here _) hWritten.same
  exact (replaceCourse_edited hLaid hu hOpen).mono (by simp [touched])

theorem entry_archivePath {name : String} (h : d.SameOutside here [s.outputsAt here ++ [name]] d') :
    d'.entry (s.archivePath u) = d.entry (s.archivePath u) := by
  rw [archivePath_eq s hu]
  refine h.entry (avoids_below_plain (isPlainName_safeName hu) hLaid.uploads_down fun k hk => ?_)
  rw [List.mem_singleton.mp hk]
  exact ((hLaid.apart_inside _ name).symm _ (List.mem_singleton_self _)).1

/-- If all goes well, the converter finds what has been uploaded. -/
theorem prepare_reaches (h : s.IsOpen here w.disk) {report : Report}
    (hRun : (s.prepare u).run w = (.ok report, w₁)) :
    ∃ w₂, s.IsOpen here w₂.disk ∧ Edited here (s.touched here u) w w₂ ∧
      w₂.disk.entry (s.archivePath u) = .ok (.file u.content) ∧
      (Converting.take ((standard {}).convert (s.archivePath u) s.outputs)).run w₂ =
        (.ok report, w₁) := by
  obtain ⟨_, w₂, hWrite, hRun⟩ := run_bind_eq_ok hRun
  obtain ⟨_, w₃, hClear, hConvert⟩ := run_bind_eq_ok hRun
  have hWritten := writeArchive_edited (s := s) (w := w) hu h.here_eq
  rw [hWrite] at hWritten
  have hOpen₂ := h.same hLaid (owns_upload s here _) hWritten.same
  have hCleared := clearCourse_edited (s := s) (w := w₂) hu hOpen₂.here_eq
  rw [hClear] at hCleared
  refine ⟨w₃, hOpen₂.same hLaid (owns_output s here _) hCleared.same,
    (hWritten.mono (by simp [touched])).trans (hCleared.mono (by simp [touched])), ?_, hConvert⟩
  -- what an earlier upload has left of the course is not where uploads are
  rw [entry_archivePath hLaid hu hCleared.same]
  exact write_entry (World.change_eq_ok (take_eq_ok hWrite))

/-- Once the course has been converted, its archive and its directory are there. -/
theorem prepare_eq_ok (h : s.IsOpen here w.disk) {report : Report}
    (hRun : (s.prepare u).run w = (.ok report, w₁)) :
    (∃ c, w₁.disk.entry (s.archivePath u) = .ok (.file c)) ∧
      w₁.disk.entry (s.coursePath u) = .ok .directory := by
  obtain ⟨w₂, hOpen, -, hEntry, hConvert⟩ := prepare_reaches hLaid hu h hRun
  have hConverted := convertCourse_edited (w := w₂) hLaid hu hOpen
  rw [hConvert] at hConverted
  constructor
  · rw [entry_archivePath hLaid hu hConverted.same]
    exact ⟨_, hEntry⟩
  · have hPath := coursePath_eq s hu
    have hPlain := isPlainName_course hu
    refine convert_makes (standard {}) hOpen.room ?_ ?_ (take_eq_ok hConvert)
    · show ".." ∉ (s.coursePath u).names
      rw [hPath]
      simpa using ⟨hLaid.outputs_down, hPlain.ne_up.symm⟩
    · show ¬ _ <+: w₂.disk.place (s.coursePath u)
      rw [hPath, place_below_plain hPlain hOpen.here_eq, Disk.SameOutside.place_eq hOpen.here_eq]
      exact (hLaid.apart_workshop (owns_output s here _) _ (List.mem_singleton_self _)).2

/-- Where a file stands in place of the course, this is not cleared away, and nothing is converted. -/
theorem prepare_of_file (hHere : w.disk.here = here) {c : Content}
    (hFile : w.disk.entry (s.coursePath u) = .ok (.file c)) :
    (∃ e, ((s.prepare u).run w).1 = .error e) ∧
      Edited here [s.uploadsAt here ++ [safeName u.name]] w ((s.prepare u).run w).2 := by
  have hWritten := writeArchive_edited (s := s) (w := w) hu hHere
  rcases hRun : (Converting.take (World.change (write (s.archivePath u) u.content))).run w with
    ⟨outcome, w₁⟩
  rw [hRun] at hWritten
  cases outcome with
  | error e =>
    rw [prepare, run_bind_of_error hRun]
    exact ⟨⟨e, rfl⟩, hWritten⟩
  | ok _ =>
    -- the upload is written elsewhere, so the file is still in place of the course
    have hAvoids : (s.coursePath u).Avoids here [s.uploadsAt here ++ [safeName u.name]] := by
      rw [coursePath_eq s hu]
      refine avoids_below_plain (isPlainName_course hu) hLaid.outputs_down fun k hk => ?_
      exact (hLaid.apart_inside _ _ k hk).1
    have hEntry := (Disk.SameOutside.entry hWritten.same hAvoids).trans hFile
    have hClear : (clearDirectory (s.coursePath u)).run w₁ =
        (.error (.notCleared ⟨.notDirectory, s.coursePath u⟩), w₁) := by
      rw [clearDirectory_run, Disk.has, Disk.isDirectory, Disk.ask_of_entry hEntry,
        Disk.ask_of_entry hEntry]
      rfl
    rw [prepare, run_bind_of_ok hRun, run_bind_of_error hClear]
    exact ⟨⟨_, rfl⟩, hWritten⟩

end

/-! ## The zip archive -/

/-- Keeps what a course has been converted to as a zip archive. -/
def pack (s : Site) (u : Upload) : Converting Unit := do
  let entries := Archive.zipEntries (← get).disk (s.coursePath u)
  Converting.take (World.change (write (s.outputs.child (s.zipName u)) (.zip entries)))

theorem convert_eq (s : Site) (u : Upload) :
    s.convert u = s.prepare u >>= fun report => s.pack u >>= fun _ => pure report := by
  simp only [convert, prepare, pack, bind_assoc]

/-- Answers an upload once the directories of the site are there. -/
def settle (s : Site) (u : Upload) : Answering Response := do
  let outcome ← Answering.attempt (s.convert u)
  Answering.change (removeFile (s.archivePath u))
  match outcome with
  | .ok report => return .converted (s.archivePath u).name report (s.zipName u)
  | .error e => return .failed e.message

/-- Makes the directories of the site. -/
def opening (s : Site) : Answering Unit := do
  Answering.change (ensureDirectories s.uploads)
  Answering.change (ensureDirectories s.outputs)

theorem answerUpload_eq (s : Site) (u : Upload) :
    s.answerUpload u = s.opening >>= fun _ => s.settle u := by
  rw [opening, bind_assoc]
  rfl

theorem pack_run (s : Site) (u : Upload) (w : World) :
    (s.pack u).run w =
      let written := (write (s.outputs.child (s.zipName u))
        (.zip (Archive.zipEntries w.disk (s.coursePath u)))).run w.disk
      ((written.1.mapError Failure.file).mapError .conversion, ⟨written.2, w.notices⟩) := by
  rw [pack, run_bind_of_ok (run_get w)]
  rfl

theorem settle_run (s : Site) (u : Upload) (w : World) :
    (s.settle u).run w =
      let outcome := (s.convert u).run w
      let removed := (removeFile (s.archivePath u)).run outcome.2.disk
      (match removed.1, outcome.1 with
        | .error e, _ => .error (.file e)
        | .ok _, .ok report => .ok (.converted (s.archivePath u).name report (s.zipName u))
        | .ok _, .error e => .ok (.failed e.message), ⟨removed.2, outcome.2.notices⟩) := by
  rw [settle, run_bind_of_ok (Answering.attempt_run (s.convert u) w), run_bind, Answering.change_run]
  dsimp only
  rcases (s.convert u).run w with ⟨outcome, w₁⟩
  rcases (removeFile (s.archivePath u)).run w₁.disk with ⟨removed, d⟩
  cases removed with
  | error e => rfl
  | ok _ => cases outcome <;> rfl

/-- The zip archive of a course has come to the disk, and the upload is gone. -/
structure Packed (s : Site) (here : Location) (u : Upload) (w w' : World) : Prop where
  edited : Edited here [s.outputsAt here ++ [u.zip], s.uploadsAt here ++ [safeName u.name]] w w'
  kept : w'.disk.entry (s.outputs.below [u.zip]) =
    .ok (.file (.zip (Archive.zipEntries w.disk (s.coursePath u))))

section

variable (hLaid : s.IsLaidOut here) (hu : Archive.hasSuffix u.name = true)

include hu

/-- The archive of the upload is removed, or nothing is. -/
theorem removeArchive_edited (hHere : w.disk.here = here) :
    Edited here [s.uploadsAt here ++ [safeName u.name]] w
      ⟨((removeFile (s.archivePath u)).run w.disk).2, w.notices⟩ := by
  have hPlace : w.disk.place (s.archivePath u) = s.uploadsAt here ++ [safeName u.name] := by
    rw [archivePath_eq s hu, place_below_plain (isPlainName_safeName hu) hHere]
    rfl
  have hSame : Edited here [s.uploadsAt here ++ [safeName u.name]] w w :=
    ⟨.refl _ hHere, .refl _⟩
  rw [removeFile, run_bind_of_ok (run_get w.disk)]
  cases w.disk.entry (s.archivePath u) with
  | error e => exact hSame
  | ok e =>
    cases e with
    | directory => exact hSame
    | file c =>
      exact ⟨Disk.SameOutside.remove_of_covered hHere (covered_of_eq hPlace),
        Disk.staysUnique_remove _ _⟩

/-- A conversion that fails, also if only its zip archive cannot be written, has not touched that. -/
theorem convert_cases (w : World) :
    (∃ report w₁ d, (s.prepare u).run w = (.ok report, w₁) ∧
      (write (s.outputs.below [u.zip]) (.zip (Archive.zipEntries w₁.disk (s.coursePath u)))).run
        w₁.disk = (.ok (), d) ∧ (s.convert u).run w = (.ok report, ⟨d, w₁.notices⟩)) ∨
    ∃ e, (s.convert u).run w = (.error e, ((s.prepare u).run w).2) := by
  rw [convert_eq]
  rcases hRun : (s.prepare u).run w with ⟨outcome, w₁⟩
  cases outcome with
  | error e => exact .inr ⟨e, run_bind_of_error hRun⟩
  | ok report =>
    have hPack := pack_run s u w₁
    rw [zipPath_eq s hu] at hPack
    rw [run_bind_of_ok hRun]
    rcases hWrite : (write (s.outputs.below [u.zip])
      (.zip (Archive.zipEntries w₁.disk (s.coursePath u)))).run w₁.disk with ⟨written, d⟩
    rw [hWrite] at hPack
    cases written with
    | error e =>
      cases write_eq_error hWrite
      exact .inr ⟨_, run_bind_of_error hPack⟩
    | ok _ => exact .inl ⟨report, w₁, d, rfl, hWrite, (run_bind_of_ok hPack).trans (run_pure _ _)⟩

theorem settle_of_error (hHere : w₁.disk.here = here) {e : UploadError}
    (hConvert : (s.convert u).run w = (.error e, w₁)) :
    (∀ source report zip, ((s.settle u).run w).1 ≠ .ok (.converted source report zip)) ∧
      Edited here [s.uploadsAt here ++ [safeName u.name]] w₁ ((s.settle u).run w).2 := by
  rw [settle_run, hConvert]
  refine ⟨fun source report zip => ?_, removeArchive_edited hu hHere⟩
  dsimp only
  cases ((removeFile (s.archivePath u)).run w₁.disk).1 <;> simp

include hLaid

/-- Once the zip archive is written, the upload is still there to be removed. -/
theorem settle_of_ok {report : Report} (hHere : w₁.disk.here = here) {c : Content}
    (hArchive : w₁.disk.entry (s.archivePath u) = .ok (.file c))
    (hWrite : (write (s.outputs.below [u.zip])
      (.zip (Archive.zipEntries w₁.disk (s.coursePath u)))).run w₁.disk = (.ok (), d))
    (hConvert : (s.convert u).run w = (.ok report, ⟨d, w₁.notices⟩)) :
    ((s.settle u).run w).1 = .ok (.converted (s.archivePath u).name report u.zip) ∧
      s.Packed here u w₁ ((s.settle u).run w).2 := by
  have hPlace : w₁.disk.place (s.outputs.below [u.zip]) = s.outputsAt here ++ [u.zip] :=
    place_below_plain (isPlainName_zip hu) hHere _
  have hWritten : w₁.disk.SameOutside here [s.outputsAt here ++ [u.zip]] d := by
    have hSame := write_sameOutside hHere (covered_of_eq hPlace)
      (.zip (Archive.zipEntries w₁.disk (s.coursePath u)))
    rwa [hWrite] at hSame
  have hUnique : w₁.disk.StaysUnique d := by
    have hEdits := write_edits w₁.disk (s.outputs.below [u.zip])
      (.zip (Archive.zipEntries w₁.disk (s.coursePath u)))
    rw [hWrite] at hEdits
    exact hEdits.staysUnique
  have hRemoved := removeArchive_edited (s := s) (w := ⟨d, w₁.notices⟩) hu hWritten.here_eq'
  have hRun := removeFile_run ((entry_archivePath hLaid hu hWritten).trans hArchive)
  rw [settle_run, hConvert]
  dsimp only
  rw [hRun] at hRemoved ⊢
  -- the upload is not beside the zip archive, so this is as it has been written
  refine ⟨by rw [zipName_eq s hu], ?_, ?_⟩
  · have hFirst : Edited here [s.outputsAt here ++ [u.zip]] w₁ ⟨d, w₁.notices⟩ := ⟨hWritten, hUnique⟩
    exact (hFirst.mono (by simp)).trans (hRemoved.mono (by simp))
  · refine (Disk.SameOutside.entry hRemoved.same ?_).trans (write_entry hWrite)
    refine avoids_below_plain (isPlainName_zip hu) hLaid.outputs_down fun k hk => ?_
    exact (hLaid.apart_inside _ _ k hk).1

/--
An upload ends in one of two ways. Either its course has been converted, and then all that is left to
do succeeds; or it is not reported as converted, and then nothing has been done about its zip archive.
-/
theorem settle_cases (h : s.IsOpen here w.disk) :
    (∃ report w₁, (s.prepare u).run w = (.ok report, w₁) ∧
      ((s.settle u).run w).1 = .ok (.converted (s.archivePath u).name report u.zip) ∧
      s.Packed here u w₁ ((s.settle u).run w).2) ∨
    ((∀ source report zip, ((s.settle u).run w).1 ≠ .ok (.converted source report zip)) ∧
      Edited here [s.uploadsAt here ++ [safeName u.name]] ((s.prepare u).run w).2
        ((s.settle u).run w).2) := by
  have hHere := Disk.SameOutside.here_eq' (prepare_edited hLaid hu h).same
  rcases convert_cases (s := s) hu w with ⟨report, w₁, d, hRun, hWrite, hConvert⟩ | ⟨e, hConvert⟩
  · obtain ⟨⟨c, hArchive⟩, -⟩ := prepare_eq_ok hLaid hu h hRun
    rw [hRun] at hHere
    exact .inl ⟨report, w₁, hRun, settle_of_ok hLaid hu hHere hArchive hWrite hConvert⟩
  · exact .inr (settle_of_error hu hHere hConvert)

/-- However an upload ends, it has touched its three locations only. -/
theorem settle_edited (h : s.IsOpen here w.disk) :
    Edited here ((s.outputsAt here ++ [u.zip]) :: s.touched here u) w ((s.settle u).run w).2 := by
  have hPrepared := (prepare_edited hLaid hu h).mono
    (List.subset_cons_self (s.outputsAt here ++ [u.zip]) _)
  rcases settle_cases hLaid hu h with ⟨report, w₁, hRun, -, hPacked⟩ | ⟨-, hSettled⟩
  · rw [hRun] at hPrepared
    exact hPrepared.trans (hPacked.edited.mono (by simp [touched]))
  · exact hPrepared.trans (hSettled.mono (by simp [touched]))

/-- After an upload the directories of the site are still there. -/
theorem settle_isOpen (h : s.IsOpen here w.disk) : s.IsOpen here ((s.settle u).run w).2.disk :=
  h.same hLaid (owns_cons ⟨u.zip, .inr rfl⟩ (owns_touched s here u)) (settle_edited hLaid hu h).same

end

/-! ## Making the directories -/

section

variable (hLaid : s.IsLaidOut here)

include hLaid

omit hLaid in
/-- Directories that are there need not be made. -/
theorem opening_of_isOpen (h : s.IsOpen here w.disk) : s.opening.run w = (.ok (), w) := by
  have hThere {p : Path} (hDir : w.disk.entry p = .ok .directory) :
      (Answering.change (ensureDirectories p)).run w = (.ok (), w) := by
    obtain ⟨hLocate, hFind⟩ := Disk.entry_eq_ok hDir
    rw [Answering.change_run, ensureDirectories_of_locate hLocate,
      ensureDirectory_of_directory hLocate hFind]
    rfl
  rw [opening, run_bind_of_ok (hThere h.uploads)]
  exact hThere h.outputs

end

/-! ## Answers -/

theorem takeUpload_eq_ok {sent : Option Upload} (h : takeUpload sent = .ok u) :
    sent = some u ∧ Archive.hasSuffix u.name = true := by
  cases sent with
  | none => cases h
  | some v =>
    rw [takeUpload] at h
    split at h
    · cases h
    · split at h
      · cases h
        exact ⟨rfl, ‹_›⟩
      · cases h

theorem takeUpload_of_suffix (h : Archive.hasSuffix u.name = true) :
    takeUpload (some u) = .ok u := by
  have hName : u.name ≠ "" := by
    intro hEmpty
    rw [hEmpty] at h
    exact absurd h (by decide)
  rw [takeUpload, if_neg hName, if_pos h]

theorem answerDownload_ne_converted (s : Site) (d : Disk) (name source : String) (report : Report)
    (zip : String) : s.answerDownload d name ≠ .ok (.converted source report zip) := by
  unfold answerDownload
  dsimp only
  split
  · split
    · simp
    · cases d.read (s.outputs.child (safeName name)) <;> simp [Except.map]
  · simp

/-- An answer that does something is that to an upload which is taken. -/
theorem answer_cases (s : Site) (r : Request) (w : World) :
    (∃ u, r.upload = some u ∧ Archive.hasSuffix u.name = true ∧
      (s.answer r).run w = (s.answerUpload u).run w) ∨
    ((∀ source report zip, ((s.answer r).run w).1 ≠ .ok (.converted source report zip)) ∧
      ((s.answer r).run w).2 = w) := by
  unfold answer
  split
  case h_7 =>
    split
    · rename_i u hTake
      obtain ⟨hSent, hSuffix⟩ := takeUpload_eq_ok hTake
      exact .inl ⟨u, hSent, hSuffix, rfl⟩
    · exact .inr ⟨fun _ _ _ h => (nomatch h), rfl⟩
  case h_8 =>
    exact .inr ⟨fun source report zip => s.answerDownload_ne_converted _ _ source report zip, rfl⟩
  all_goals exact .inr ⟨fun _ _ _ h => (nomatch h), rfl⟩

/-- Answers requests, one after the other; one that breaks off is followed by the next all the same. -/
def serve (s : Site) : List Request → World → List (Except Breakdown Response) × World
  | [], w => ([], w)
  | r :: rest, w =>
    let (answer, w₁) := (s.answer r).run w
    let (answers, w₂) := s.serve rest w₁
    (answer :: answers, w₂)

theorem serve_cons (s : Site) (r : Request) (rest : List Request) (w : World) :
    s.serve (r :: rest) w =
      (((s.answer r).run w).1 :: (s.serve rest ((s.answer r).run w).2).1,
        (s.serve rest ((s.answer r).run w).2).2) := rfl

section

variable (hLaid : s.IsLaidOut here)

include hLaid

end

end Site

end Coursebook.Web
