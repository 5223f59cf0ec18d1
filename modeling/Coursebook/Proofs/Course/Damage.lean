import Mathlib.Data.List.Forall2
import Coursebook.Proofs.Course.Locality
import Coursebook.Proofs.Files.Removal

/-!
# Coursebook — damage to a course stays where it is

The outline of a course follows its files: `IsPart` says of one reference which part stands for it,
and at every level there is one part for each reference, in the order of the references
(`HasChapters`, `HasSequentials`, `HasVerticals`). An outline is read exactly if it is described in
this way (`readOutline_eq_ok_iff`), so nothing has to be run any more to compare two disks.

A file may stand for several references, and on several levels: its path can be written in more than
one way, as `..` is followed. When the file is removed, each of these parts becomes a placeholder and
all else stays (`damage_stays_local`).
-/

namespace Coursebook.Course

open Coursebook.Files

/-! ## What an outline consists of -/

section

variable {α β : Type} {d : Disk} {root : Path} {level : String}
  {make : String → String → List β → α} {inside : Xml.Element → Reading (List β)}
  {holds : Xml.Element → List β → Prop}

/-- The part that stands for an id: a placeholder if its file is missing, else what the element in
that file tells. -/
inductive IsPart (d : Disk) (root : Path) (level : String) (make : String → String → List β → α)
    (holds : Xml.Element → List β → Prop) (id : String) : α → Prop where
  | missing (hGone : d.has (partPath root level id) = .ok false) :
      IsPart d root level make holds id (make id (missingTitle level id) [])
  | present {e : Xml.Element} {bs : List β} (hThere : d.has (partPath root level id) = .ok true)
      (hRead : readXml d (partPath root level id) = .ok e) (hHolds : holds e bs) :
      IsPart d root level make holds id (make id (partTitle e id) bs)

/-- The part for an id whose file gives it no title. -/
theorem IsPart.untitled {id : String} {c : Content} {e : Xml.Element} {bs : List β}
    (hEntry : d.entry (partPath root level id) = .ok (.file c))
    (hRead : readXml d (partPath root level id) = .ok e)
    (hTitle : e.filled? "display_name" = none) (hHolds : holds e bs) :
    IsPart d root level make holds id (make id id bs) := by
  have hPart : IsPart d root level make holds id (make id (partTitle e id) bs) :=
    .present (Disk.ask_of_entry hEntry _) hRead hHolds
  rwa [partTitle, hTitle] at hPart

/-- A part is read exactly if it stands for its id. -/
theorem readPart_eq_ok_iff {s : List Notice}
    (hInside : ∀ e bs, (∃ s', (inside e).run s = (.ok bs, s')) ↔ holds e bs) {id : String}
    {part : α} :
    (∃ s', (readPart d root level make inside id).run s = (.ok part, s')) ↔
      IsPart d root level make holds id part := by
  rw [readPart_run]
  constructor
  · -- the run has looked for the file, then at its element, then at what is in it
    rintro ⟨s', hRun⟩
    split at hRun
    · cases hRun
    · rename_i hGone
      cases hRun
      exact .missing hGone
    · rename_i hThere
      split at hRun
      · cases hRun
      · rename_i e hRead
        split at hRun
        · rename_i bs _ hBelow
          cases hRun
          exact .present hThere hRead ((hInside e bs).mp ⟨s', hBelow⟩)
        · cases hRun
  · rintro (⟨hGone⟩ | ⟨hThere, hRead, hHolds⟩)
    · rw [hGone]
      exact ⟨_, rfl⟩
    · obtain ⟨s', hBelow⟩ := (hInside _ _).mpr hHolds
      rw [hThere, hRead]
      dsimp only
      rw [hBelow]
      exact ⟨s', rfl⟩

/-- The parts that are read are those that stand for the ids, one for each and in order. -/
theorem readParts_eq_ok_iff
    (hInside : ∀ s e bs, (∃ s', (inside e).run s = (.ok bs, s')) ↔ holds e bs)
    {ids : List String} {parts : List α} {s : List Notice} :
    (∃ s', (readParts d root level make inside ids).run s = (.ok parts, s')) ↔
      List.Forall₂ (IsPart d root level make holds) ids parts := by
  induction ids generalizing parts s with
  | nil =>
    rw [readParts, run_pure, List.forall₂_nil_left_iff]
    constructor
    · rintro ⟨s', hRun⟩
      cases hRun
      rfl
    · rintro rfl
      exact ⟨s, rfl⟩
  | cons id r ih =>
    rw [readParts_cons]
    constructor
    · rintro ⟨s', hRun⟩
      obtain ⟨part, s₁, hPart, hRun⟩ := run_bind_eq_ok hRun
      obtain ⟨rest, s₂, hRest, hRun⟩ := run_bind_eq_ok hRun
      cases hRun
      exact .cons ((readPart_eq_ok_iff (hInside s)).mp ⟨s₁, hPart⟩) (ih.mp ⟨_, hRest⟩)
    · intro hParts
      cases hParts with
      | cons hPart hRest =>
        -- the rest is read with the notices that the first part has left
        obtain ⟨s₁, hRun₁⟩ := (readPart_eq_ok_iff (hInside s)).mpr hPart
        obtain ⟨s₂, hRun₂⟩ := ih (s := s₁) |>.mpr hRest
        rw [run_bind_of_ok hRun₁, run_bind_of_ok hRun₂]
        exact ⟨s₂, rfl⟩

end

section

variable {d : Disk} {root : Path} {kinds : List String} {e : Xml.Element} {s : List Notice}

/-- The verticals of a sequential. -/
def HasVerticals (d : Disk) (root : Path) (kinds : List String) (e : Xml.Element) :
    List Vertical → Prop :=
  List.Forall₂ (IsPart d root "vertical" Vertical.mk fun e refs => refs = collect kinds e)
    (partIds e "vertical")

/-- The sequentials of a chapter. -/
def HasSequentials (d : Disk) (root : Path) (kinds : List String) (e : Xml.Element) :
    List Sequential → Prop :=
  List.Forall₂ (IsPart d root "sequential" Sequential.mk (HasVerticals d root kinds))
    (partIds e "sequential")

/-- The chapters of a course. -/
def HasChapters (d : Disk) (root : Path) (kinds : List String) (e : Xml.Element) :
    List Chapter → Prop :=
  List.Forall₂ (IsPart d root "chapter" Chapter.mk (HasSequentials d root kinds))
    (partIds e "chapter")

theorem readVerticals_eq_ok_iff {vs : List Vertical} :
    (∃ s', (readVerticals d root kinds e).run s = (.ok vs, s')) ↔ HasVerticals d root kinds e vs := by
  refine readParts_eq_ok_iff fun s e refs => ?_
  rw [run_pure]
  constructor
  · rintro ⟨s', hRun⟩
    cases hRun
    rfl
  · rintro rfl
    exact ⟨s, rfl⟩

theorem readSequentials_eq_ok_iff {qs : List Sequential} :
    (∃ s', (readSequentials d root kinds e).run s = (.ok qs, s')) ↔
      HasSequentials d root kinds e qs :=
  readParts_eq_ok_iff fun _ _ _ => readVerticals_eq_ok_iff

theorem readChapters_eq_ok_iff {cs : List Chapter} :
    (∃ s', (readChapters d root kinds e).run s = (.ok cs, s')) ↔ HasChapters d root kinds e cs :=
  readParts_eq_ok_iff fun _ _ _ => readSequentials_eq_ok_iff

/-- The outline of a course: `top` is the element of `course.xml`, and `full` the one that describes
the course in full. -/
structure IsOutline (d : Disk) (root : Path) (kinds : List String) (top full : Xml.Element)
    (o : Outline) : Prop where
  there : d.has (coursePath root) = .ok true
  starts : readXml d (coursePath root) = .ok top
  described : describingElement d root top = .ok full
  chapters : HasChapters d root kinds full o.chapters
  told : o = ⟨courseId top full, courseTitle top full, o.chapters, some root⟩

/-- An outline is read exactly if it is the one of the course. -/
theorem readOutline_eq_ok_iff {o : Outline} :
    (∃ s', (readOutline d root kinds).run s = (.ok o, s')) ↔
      ∃ top full, IsOutline d root kinds top full o := by
  rw [readOutline_run]
  constructor
  · rintro ⟨s', hRun⟩
    split at hRun
    · cases hRun
    · cases hRun
    · rename_i hThere
      split at hRun
      · cases hRun
      · rename_i top hTop
        split at hRun
        · cases hRun
        · rename_i full hFull
          split at hRun
          · rename_i cs s₁ hChapters
            cases hRun
            exact ⟨top, full, hThere, hTop, hFull, readChapters_eq_ok_iff.mp ⟨s₁, hChapters⟩, rfl⟩
          · cases hRun
  · rintro ⟨top, full, h⟩
    obtain ⟨s₁, hChapters⟩ := readChapters_eq_ok_iff.mpr h.chapters
    rw [h.there, h.starts]
    dsimp only
    rw [h.described]
    dsimp only
    rw [hChapters, h.told]
    exact ⟨_, rfl⟩

end

/-! ## The outline without some files -/

section

variable {α β : Type}

/-- A part once some files are gone: a placeholder if its own is among them, else the same part, with
each thing in it changed as `inside` tells. -/
def damagedPart (gone : Path → Bool) (root : Path) (level : String)
    (make : String → String → List β → α) (inside : β → β) (id title : String) (bs : List β) : α :=
  if gone (partPath root level id) then make id (missingTitle level id) []
  else make id title (bs.map inside)

/-- A vertical refers to its components, and is not concerned with their files. -/
def Vertical.damaged (gone : Path → Bool) (root : Path) (v : Vertical) : Vertical :=
  damagedPart gone root "vertical" .mk (fun ref => ref) v.id v.title v.components

def Sequential.damaged (gone : Path → Bool) (root : Path) (q : Sequential) : Sequential :=
  damagedPart gone root "sequential" .mk (Vertical.damaged gone root) q.id q.title q.verticals

def Chapter.damaged (gone : Path → Bool) (root : Path) (c : Chapter) : Chapter :=
  damagedPart gone root "chapter" .mk (Sequential.damaged gone root) c.id c.title c.sequentials

/-- The outline of a course once some files of its parts are gone. -/
def Outline.damaged (gone : Path → Bool) (root : Path) (o : Outline) : Outline :=
  { o with chapters := o.chapters.map (Chapter.damaged gone root) }

end

section

variable {α β : Type} {gone : Path → Bool} {d d' : Disk} {root : Path} {kinds : List String}

theorem readXml_of_losesOnly (h : d.LosesOnly gone d') {q : Path} (hThere : d.has q = .ok true)
    (hKept : gone q = false) : readXml d' q = readXml d q := by
  unfold readXml
  rw [h.read q hThere hKept]

/-- The damage of one part: what stands for an id on a disk, stands for it damaged on the disk
without the files. -/
theorem IsPart.damaged (h : d.LosesOnly gone d') {level : String}
    {make : String → String → List β → α} {holds holds' : Xml.Element → List β → Prop}
    {insideOf : β → β} (hInside : ∀ e bs, holds e bs → holds' e (bs.map insideOf)) {damage : α → α}
    (hDamage : ∀ id title bs,
      damage (make id title bs) = damagedPart gone root level make insideOf id title bs)
    {id : String} {part : α} (hPart : IsPart d root level make holds id part) :
    IsPart d' root level make holds' id (damage part) := by
  have hHas := h.has (partPath root level id)
  -- whether the file of this part is lost, not whether those of the parts in it are
  cases hGone : gone (partPath root level id) with
  | true =>
    -- it is, and what the part was read to be does not matter any more
    rw [if_pos hGone] at hHas
    cases hPart <;>
    · rw [hDamage, damagedPart, if_pos hGone]
      exact .missing hHas
  | false =>
    rw [if_neg (Bool.not_eq_true _ ▸ hGone)] at hHas
    cases hPart with
    | missing hMissing =>
      rw [hDamage, damagedPart, if_neg (Bool.not_eq_true _ ▸ hGone)]
      exact .missing (hHas.trans hMissing)
    | present hThere hRead hHolds =>
      rw [hDamage, damagedPart, if_neg (Bool.not_eq_true _ ▸ hGone)]
      exact .present (hHas.trans hThere) ((readXml_of_losesOnly h hThere hGone).trans hRead)
        (hInside _ _ hHolds)

theorem HasVerticals.damaged (h : d.LosesOnly gone d') (e : Xml.Element) (vs : List Vertical)
    (hVerticals : HasVerticals d root kinds e vs) :
    HasVerticals d' root kinds e (vs.map (Vertical.damaged gone root)) := by
  refine List.forall₂_map_right_iff.mpr (hVerticals.imp fun id v hPart => ?_)
  exact hPart.damaged h (fun e refs hRefs => (List.map_id refs).trans hRefs) fun _ _ _ => rfl

theorem HasSequentials.damaged (h : d.LosesOnly gone d') (e : Xml.Element) (qs : List Sequential)
    (hSequentials : HasSequentials d root kinds e qs) :
    HasSequentials d' root kinds e (qs.map (Sequential.damaged gone root)) := by
  refine List.forall₂_map_right_iff.mpr (hSequentials.imp fun id q hPart => ?_)
  exact hPart.damaged h (HasVerticals.damaged h) fun _ _ _ => rfl

theorem HasChapters.damaged (h : d.LosesOnly gone d') (e : Xml.Element) (cs : List Chapter)
    (hChapters : HasChapters d root kinds e cs) :
    HasChapters d' root kinds e (cs.map (Chapter.damaged gone root)) := by
  refine List.forall₂_map_right_iff.mpr (hChapters.imp fun id c hPart => ?_)
  exact hPart.damaged h (HasSequentials.damaged h) fun _ _ _ => rfl

theorem describingElement_of_losesOnly (h : d.LosesOnly gone d') {top full : Xml.Element}
    (hName : ∀ name, top.filled? "url_name" = some name →
      gone (partPath root "course" name) = false)
    (hFull : describingElement d root top = .ok full) :
    describingElement d' root top = .ok full := by
  unfold describingElement at hFull ⊢
  cases hId : top.filled? "url_name" with
  | none => rwa [hId] at hFull
  | some name =>
    have hKept := hName name hId
    rw [hId] at hFull
    dsimp only at hFull ⊢
    rw [h.has, if_neg (Bool.not_eq_true _ ▸ hKept)]
    -- the file that describes the course is kept, if there is one
    cases hThere : d.has (partPath root "course" name) with
    | error e => rwa [hThere] at hFull
    | ok there =>
      cases there with
      | false => rwa [hThere] at hFull
      | true =>
        rw [hThere] at hFull
        rw [readXml_of_losesOnly h hThere hKept]
        exact hFull

/-- The outline without files that are neither of the two that describe the course as a whole. -/
theorem IsOutline.damaged (h : d.LosesOnly gone d') {top full : Xml.Element} {o : Outline}
    (hTop : gone (coursePath root) = false)
    (hName : ∀ name, top.filled? "url_name" = some name →
      gone (partPath root "course" name) = false)
    (hOutline : IsOutline d root kinds top full o) :
    IsOutline d' root kinds top full (o.damaged gone root) where
  there := by rw [h.has, if_neg (Bool.not_eq_true _ ▸ hTop), hOutline.there]
  starts := (readXml_of_losesOnly h hOutline.there hTop).trans hOutline.starts
  described := describingElement_of_losesOnly h hName hOutline.described
  chapters := HasChapters.damaged h full o.chapters hOutline.chapters
  told := by rw [hOutline.told]; rfl

end

/--
**Damage stays local.** An outline that can be read has at every level one part for each reference,
in the order of the references. If any one file is then removed, other than `course.xml` and the file
that describes the course in full, the outline can be read as well: exactly the parts whose path leads
to that file have become placeholders without anything in them, and all other parts, unless they were
inside of these, are as before.

The working directory is a directory, thus it is neither the file nor below it.
-/
theorem damage_stays_local {d : Disk} {root : Path} {kinds : List String} {o : Outline}
    {s s' : List Notice} (hRun : (readOutline d root kinds).run s = (.ok o, s')) :
    ∃ top full, IsOutline d root kinds top full o ∧
      ∀ p c, d.entry p = .ok (.file c) → ¬ d.place p <+: d.here →
        d.same (coursePath root) p = false →
        (∀ name, top.filled? "url_name" = some name →
          d.same (partPath root "course" name) p = false) →
        ∃ d' s₁, (removeFile p).run d = (.ok (), d') ∧
          (readOutline d' root kinds).run s = (.ok (o.damaged (d.same · p) root), s₁) := by
  obtain ⟨top, full, hOutline⟩ := readOutline_eq_ok_iff.mp ⟨s', hRun⟩
  refine ⟨top, full, hOutline, ?_⟩
  intro p c hFile hHere hTop hName
  have hLost : d.LosesOnly (d.same · p) (d.remove p) := Disk.losesOnly_remove hFile hHere
  -- what is left describes the damaged outline, so that is what is read
  have hLeft := hOutline.damaged hLost hTop hName
  obtain ⟨s₁, hRun'⟩ := readOutline_eq_ok_iff.mpr ⟨top, full, hLeft⟩
  exact ⟨d.remove p, s₁, removeFile_run hFile, hRun'⟩

/-- A course with a file that stands for a chapter and, by another path, for a sequential. -/
def sharedFileDisk : Disk where
  tree := ⟨[(["c"], .directory), (["c", "chapter"], .directory), (["c", "sequential"], .directory),
    (["c", "course.xml"],
      .file (.ofText "<course><chapter url_name='a'/><chapter url_name='b'/></course>")),
    (["c", "chapter", "a.xml"], .file (.ofText "<chapter/>")),
    (["c", "chapter", "b.xml"],
      .file (.ofText "<chapter><sequential url_name='../chapter/a'/></chapter>"))]⟩

section

variable {root : Path}

/-- Where the four paths of this course lead; the last one goes back to the directory of chapters. -/
theorem sharedFileDisk_locate (hRoot : root = ⟨.relative, ["c"]⟩) :
    sharedFileDisk.locate (coursePath root) = .ok ["c", "course.xml"] ∧
    sharedFileDisk.locate (partPath root "chapter" "a") = .ok ["c", "chapter", "a.xml"] ∧
    sharedFileDisk.locate (partPath root "chapter" "b") = .ok ["c", "chapter", "b.xml"] ∧
    sharedFileDisk.locate (partPath root "sequential" "../chapter/a") =
      .ok ["c", "chapter", "a.xml"] := by
  subst hRoot
  have hWalk (names : List String) {p : Path} (hp : p = ⟨.relative, names⟩)
      (hWritable : (⟨.relative, names⟩ : Path).IsWritable) :
      sharedFileDisk.locate p = sharedFileDisk.tree.walk [] names := by
    rw [hp, Disk.locate_eq_walk _ hWritable]
    rfl
  refine ⟨?_, ?_, ?_, ?_⟩
  · rw [hWalk ["c", "course.xml"] (by decide) ⟨by decide, by decide⟩]
    decide
  · rw [hWalk ["c", "chapter", "a.xml"] (by decide) ⟨by decide, by decide⟩]
    decide
  · rw [hWalk ["c", "chapter", "b.xml"] (by decide) ⟨by decide, by decide⟩]
    decide
  · rw [hWalk ["c", "sequential", "..", "chapter", "a.xml"] (by decide)
      ⟨by decide, by decide⟩]
    decide

end

/-- The outline of this course with all its files. -/
theorem sharedFileDisk_isOutline {root : Path} (hRoot : root = ⟨.relative, ["c"]⟩) :
    ∃ top, top.filled? "url_name" = none ∧
      IsOutline sharedFileDisk root knownKinds top top
        ⟨"unknown", "Untitled Course",
          [⟨"a", "a", []⟩, ⟨"b", "b", [⟨"../chapter/a", "../chapter/a", []⟩]⟩], some root⟩ := by
  obtain ⟨hCourse, hFirst, hSecond, hInside⟩ := sharedFileDisk_locate hRoot
  let top : Xml.Element := ⟨"course", [], [.element "chapter" [("url_name", "a")] [],
    .element "chapter" [("url_name", "b")] []]⟩
  let empty : Xml.Element := ⟨"chapter", [], []⟩
  let other : Xml.Element :=
    ⟨"chapter", [], [.element "sequential" [("url_name", "../chapter/a")] []]⟩
  -- the three files, of which one is come to by two paths
  have hTop : sharedFileDisk.entry (coursePath root) =
      .ok (.file (.ofText "<course><chapter url_name='a'/><chapter url_name='b'/></course>")) :=
    Disk.entry_of_locate hCourse rfl
  have hShared {p : Path} (h : sharedFileDisk.locate p = .ok ["c", "chapter", "a.xml"]) :
      sharedFileDisk.entry p = .ok (.file (.ofText "<chapter/>")) :=
    Disk.entry_of_locate h rfl
  have hOther : sharedFileDisk.entry (partPath root "chapter" "b") =
      .ok (.file (.ofText "<chapter><sequential url_name='../chapter/a'/></chapter>")) :=
    Disk.entry_of_locate hSecond rfl
  -- what they hold
  have hTopRead : readXml sharedFileDisk (coursePath root) = .ok top :=
    readXml_of_start (Disk.read_of_entry hTop) (by cbv) (by cbv)
  have hSharedRead {p : Path} (h : sharedFileDisk.locate p = .ok ["c", "chapter", "a.xml"]) :
      readXml sharedFileDisk p = .ok empty :=
    readXml_of_start (Disk.read_of_entry (hShared h)) (by cbv) (by cbv)
  have hOtherRead : readXml sharedFileDisk (partPath root "chapter" "b") = .ok other :=
    readXml_of_start (Disk.read_of_entry hOther) (by cbv) (by cbv)
  have hChapters : partIds top "chapter" = ["a", "b"] := by decide
  have hSequentials : partIds other "sequential" = ["../chapter/a"] := by decide
  have hSequential : HasSequentials sharedFileDisk root knownKinds other
      [⟨"../chapter/a", "../chapter/a", []⟩] := by
    rw [HasSequentials, hSequentials]
    exact .cons (.untitled (hShared hInside) (hSharedRead hInside) rfl .nil) .nil
  have hBoth : HasChapters sharedFileDisk root knownKinds top
      [⟨"a", "a", []⟩, ⟨"b", "b", [⟨"../chapter/a", "../chapter/a", []⟩]⟩] := by
    rw [HasChapters, hChapters]
    exact .cons (.untitled (hShared hFirst) (hSharedRead hFirst) rfl .nil)
      (.cons (.untitled hOther hOtherRead rfl hSequential) .nil)
  exact ⟨top, rfl, Disk.ask_of_entry hTop _, hTopRead, rfl, hBoth, rfl⟩

/-- One file may be what two parts of different levels are read from: both become placeholders. -/
theorem shared_file_removed :
    let root : Path := ⟨.relative, ["c"]⟩
    let again : String := "../chapter/a"
    ∃ d' s s', (readOutline sharedFileDisk root knownKinds).run [] =
        (.ok ⟨"unknown", "Untitled Course",
          [⟨"a", "a", []⟩, ⟨"b", "b", [⟨again, again, []⟩]⟩], some root⟩, s) ∧
      (removeFile (partPath root "chapter" "a")).run sharedFileDisk = (.ok (), d') ∧
      (readOutline d' root knownKinds).run [] =
        (.ok ⟨"unknown", "Untitled Course",
          [⟨"a", "Missing chapter a", []⟩,
            ⟨"b", "b", [⟨again, "Missing sequential ../chapter/a", []⟩]⟩], some root⟩, s') := by
  intro root again
  obtain ⟨top, hNone, hOutline⟩ := sharedFileDisk_isOutline (rfl : root = _)
  obtain ⟨s, hRun⟩ := readOutline_eq_ok_iff.mpr ⟨top, top, hOutline⟩
  obtain ⟨top', full, hOutline', hDamage⟩ := damage_stays_local hRun
  obtain rfl : top = top' := Except.ok.inj (hOutline.starts.symm.trans hOutline'.starts)
  -- which of the four paths lead to the file
  obtain ⟨hCourse, hFirst, hSecond, hInside⟩ := sharedFileDisk_locate (rfl : root = _)
  have hFile : sharedFileDisk.entry (partPath root "chapter" "a") =
      .ok (.file (.ofText "<chapter/>")) := Disk.entry_of_locate hFirst rfl
  have hSame {q : Path} {l : Location} (h : sharedFileDisk.locate q = .ok l) :
      sharedFileDisk.same q (partPath root "chapter" "a") =
        decide (l = ["c", "chapter", "a.xml"]) := by
    rw [Bool.eq_iff_iff, Disk.same_iff hFile, ← Disk.locate_eq_place hFirst, h]
    simp
  have hHere : ¬ sharedFileDisk.place (partPath root "chapter" "a") <+: sharedFileDisk.here := by
    rw [← Disk.locate_eq_place hFirst]
    decide
  obtain ⟨d', s', hRemoved, hRun'⟩ := hDamage (partPath root "chapter" "a") _ hFile hHere
    ((hSame hCourse).trans (by decide)) (by intro name hName; cases hNone.symm.trans hName)
  refine ⟨d', s, s', hRun, hRemoved, hRun'.trans ?_⟩
  simp only [Outline.damaged, Chapter.damaged, Sequential.damaged, damagedPart, List.map_cons,
    List.map_nil, hSame hFirst, hSame hSecond, hSame hInside]
  rfl

end Coursebook.Course
