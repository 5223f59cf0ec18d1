import Coursebook.Proofs.Course.Damage
import Coursebook.Proofs.Course.Relocation

/-!
# Coursebook — the documents of a course in two places

The document of a course is put together from what comes of its components, and this is alike in any
two places that the course is kept in. So the two documents differ in placeholders only, and in these
only as far as a failure names a path.

* `documents_elsewhere` — the two documents of a confined course.
* `documents_tell_places` — two copies of a course whose documents differ.
-/

namespace Coursebook.Course

open Coursebook.Files

/-- What comes of a component is the same in both places if no failure names a path. -/
theorem Load.Alike.eq_of_no_path {root root' : Path} {α : Type} {x y : Load α}
    (h : Load.Alike root root' Eq x y) (hNone : ∀ e, x = .error e → e.path? = none)
    (hNone' : ∀ e, y = .error e → e.path? = none) : y = x := by
  cases h with
  | ok hEq => rw [hEq]
  | error hMoved => rw [hMoved.eq_of_path?_eq_none (hNone _ rfl)]
  | tooLong hp hLong y => cases hNone _ rfl
  | tooLong' hp hLong x => cases hNone' _ rfl

variable {d d' : Disk} {root root' : Path}

theorem writeDocument_text {config : Config} {registry : Registry} {o : Outline} {p p' : Progress}
    {text : String} (hRoot : o.root = some root)
    (hRun : (writeDocument config registry d o none).run p = (.ok text, p')) :
    text = documentText (Source.mk registry d root).outcome config o := by
  have hGiven : (none <|> o.root) = some root := hRoot
  rw [writeDocument_run hGiven (goesOn_of_writeDocument hGiven hRun)] at hRun
  cases hRun
  rfl

theorem root_of_readOutline {kinds : List String} {o : Outline} {s s' : List Notice}
    (hRun : (readOutline d root kinds).run s = (.ok o, s')) : o.root = some root := by
  obtain ⟨top, full, hOutline⟩ := readOutline_eq_ok_iff.mp ⟨s', hRun⟩
  rw [hOutline.told]

/--
**A document does not depend on where its course is, but for its placeholders.** Let a course be kept
in two places, and let none of the references that the reading of it comes to lead out of it. If its
outline is read and its document is written in both places, the outlines differ in the directory of
the course alone. The documents are put together from these in the same way, and of each component
they show the same text; or it fails in both places, and the two failures differ in the directory of
the course alone; or it fails in one of them since a path is too long there. So the documents are the
same if no component fails in a way that names a path.
-/
theorem documents_elsewhere (h : d.SameAt root d' root') {kinds : List String}
    (hCourse : CourseConfined d root kinds) (config : Config) {o o' : Outline}
    {s s₁ t t₁ : List Notice} (hOutline : (readOutline d root kinds).run s = (.ok o, s₁))
    (hOutline' : (readOutline d' root' kinds).run t = (.ok o', t₁)) {p p₁ q q₁ : Progress}
    {text text' : String}
    (hText : (writeDocument config (.standard config) d o none).run p = (.ok text, p₁))
    (hText' : (writeDocument config (.standard config) d' o' none).run q = (.ok text', q₁)) :
    let here := Source.mk (.standard config) d root
    let there := Source.mk (.standard config) d' root'
    o' = { o with root := some root' } ∧
    text = documentText here.outcome config o ∧ text' = documentText there.outcome config o ∧
    (∀ ref ∈ o.references,
      Load.Alike root root' Eq (here.componentText ref) (there.componentText ref)) ∧
    ((∀ ref ∈ o.references, ∀ e, here.componentText ref = .error e ∨
      there.componentText ref = .error e → e.path? = none) → text' = text) := by
  intro here there
  have hMoved : o' = { o with root := some root' } := by
    have hAlike := readOutline_alike h hCourse s t
    rw [hOutline, hOutline'] at hAlike
    cases hAlike with
    | ok hEq => exact hEq
  have hWritten := writeDocument_text (root_of_readOutline hOutline) hText
  have hWritten' : text' = documentText there.outcome config o := by
    rw [writeDocument_text (root_of_readOutline hOutline') hText', hMoved]
    rfl
  have hAlike : ∀ ref ∈ o.references,
      Load.Alike root root' Eq (here.componentText ref) (there.componentText ref) :=
    fun ref hRef => componentText_alike h config (readOutline_confined hCourse hOutline ref hRef)
  refine ⟨hMoved, hWritten, hWritten', hAlike, fun hNone => ?_⟩
  have hSame : ∀ ref ∈ o.references, there.outcome ref = here.outcome ref := by
    intro ref hRef
    have hTexts := (hAlike ref hRef).eq_of_no_path (fun e he => hNone ref hRef e (.inl he))
      fun e he => hNone ref hRef e (.inr he)
    rw [Source.outcome, Source.outcome, hTexts]
  rw [hWritten, hWritten', documentText_congr hSame]

/-! ## Two copies of a course -/

/-- A file that stands for a chapter, for the sequential in it and for the vertical in this. -/
def sharedContent : Content := .ofText
  "<c><sequential url_name='../chapter/x'/><vertical url_name='../chapter/x'/><problem/></c>"

/-- The directories and files of a course whose one file stands for a chapter, for the sequential in
it and for the vertical in this, with a problem that has no file. -/
def courseEntries (name : String) : List (Location × Entry) :=
  [([name], .directory), ([name, "chapter"], .directory), ([name, "sequential"], .directory),
    ([name, "vertical"], .directory),
    ([name, "course.xml"], .file (.ofText "<course><chapter url_name='x'/></course>")),
    ([name, "chapter", "x.xml"], .file sharedContent)]

/-- A disk with this course in two places. -/
def copiesDisk : Disk where
  tree := ⟨courseEntries "c" ++ courseEntries "copy"⟩

theorem copiesDisk_sameAt :
    copiesDisk.SameAt ⟨.relative, ["c"]⟩ copiesDisk ⟨.relative, ["copy"]⟩ := by
  have hHere : copiesDisk.locate ⟨.relative, ["c"]⟩ = .ok ["c"] :=
    Disk.locate_eq_walk _ (by decide)
  have hThere : copiesDisk.locate ⟨.relative, ["copy"]⟩ = .ok ["copy"] :=
    Disk.locate_eq_walk _ (by decide)
  refine .reached hHere hThere (fun names => ?_) fun names => ?_
  · simp [Tree.find?, copiesDisk, courseEntries, List.lookup_cons]
  · simp [Tree.inDirectory, copiesDisk, courseEntries, List.filterMap_cons]

/-- The elements of the two files. -/
def copyTop : Xml.Element := ⟨"course", [], [.element "chapter" [("url_name", "x")] []]⟩

def copyElement : Xml.Element :=
  ⟨"c", [], [.element "sequential" [("url_name", "../chapter/x")] [],
    .element "vertical" [("url_name", "../chapter/x")] [], .element "problem" [] []]⟩

theorem collect_copyElement : collect knownKinds copyElement = [⟨"problem", "unknown", none⟩] := by
  cbv

/-- The paths that are looked for in a copy. -/
def copyPaths : List (List String) :=
  [["course.xml"], ["chapter", "x.xml"], ["sequential", "..", "chapter", "x.xml"],
    ["vertical", "..", "chapter", "x.xml"], ["problem", "unknown.xml"]]

/-- The references to the parts of a copy. -/
def copyParts : List (String × String) :=
  [("chapter", "x"), ("sequential", "../chapter/x"), ("vertical", "../chapter/x")]

section

variable {name : String}

theorem copiesDisk_locate (hName : name ∈ ["c", "copy"]) {names : List String}
    (hNames : names ∈ copyPaths) :
    copiesDisk.locate ⟨.relative, name :: names⟩ = copiesDisk.tree.walk [] (name :: names) := by
  have hWritable : (⟨.relative, name :: names⟩ : Path).IsWritable := by
    revert name names
    decide
  exact Disk.locate_eq_walk _ hWritable

/-- On every level the reference to a part leads to the same file. -/
theorem copiesDisk_part (hName : name ∈ ["c", "copy"]) {part : String × String}
    (hPart : part ∈ copyParts) :
    copiesDisk.has (partPath ⟨.relative, [name]⟩ part.1 part.2) = .ok true ∧
      readXml copiesDisk (partPath ⟨.relative, [name]⟩ part.1 part.2) = .ok copyElement := by
  have hPath : ∃ names ∈ copyPaths,
      partPath ⟨.relative, [name]⟩ part.1 part.2 = ⟨.relative, name :: names⟩ ∧
      copiesDisk.tree.walk [] (name :: names) = .ok [name, "chapter", "x.xml"] := by
    revert name part
    decide
  obtain ⟨names, hNames, hPath, hWalk⟩ := hPath
  have hFile : copiesDisk.tree.find? [name, "chapter", "x.xml"] = some (.file sharedContent) := by
    rw [List.mem_cons, List.mem_singleton] at hName
    rcases hName with rfl | rfl <;> rfl
  have hEntry := Disk.entry_of_locate ((copiesDisk_locate hName hNames).trans hWalk) hFile
  rw [hPath]
  exact ⟨Disk.ask_of_entry hEntry _, readXml_of_start (Disk.read_of_entry hEntry) (by cbv) (by cbv)⟩

theorem copiesDisk_top (hName : name ∈ ["c", "copy"]) :
    copiesDisk.has (coursePath ⟨.relative, [name]⟩) = .ok true ∧
      readXml copiesDisk (coursePath ⟨.relative, [name]⟩) = .ok copyTop := by
  have hWalk : copiesDisk.tree.walk [] [name, "course.xml"] = .ok [name, "course.xml"] := by
    revert name
    decide
  have hFile : copiesDisk.tree.find? [name, "course.xml"] =
      some (.file (.ofText "<course><chapter url_name='x'/></course>")) := by
    rw [List.mem_cons, List.mem_singleton] at hName
    rcases hName with rfl | rfl <;> rfl
  have hEntry : copiesDisk.entry (coursePath ⟨.relative, [name]⟩) = .ok (.file _) :=
    Disk.entry_of_locate ((copiesDisk_locate hName (by decide)).trans hWalk) hFile
  exact ⟨Disk.ask_of_entry hEntry _, readXml_of_start (Disk.read_of_entry hEntry) (by cbv) (by cbv)⟩

/-- The outline of a copy. -/
def copyOutline (name : String) : Outline where
  id := "unknown"
  title := "Untitled Course"
  chapters := [⟨"x", "x", [⟨"../chapter/x", "../chapter/x",
    [⟨"../chapter/x", "../chapter/x", [⟨"problem", "unknown", none⟩]⟩]⟩]⟩]
  root := some ⟨.relative, [name]⟩

theorem copiesDisk_isOutline (hName : name ∈ ["c", "copy"]) :
    IsOutline copiesDisk ⟨.relative, [name]⟩ knownKinds copyTop copyTop (copyOutline name) := by
  have hPart {α β : Type} {level id : String} {make : String → String → List β → α}
      {holds : Xml.Element → List β → Prop} {bs : List β} (hPart : (level, id) ∈ copyParts)
      (hHolds : holds copyElement bs) :
      IsPart copiesDisk ⟨.relative, [name]⟩ level make holds id (make id id bs) := by
    obtain ⟨hThere, hRead⟩ := copiesDisk_part hName hPart
    exact .present hThere hRead hHolds
  have hChapters : partIds copyTop "chapter" = ["x"] := by decide
  have hSequentials : partIds copyElement "sequential" = ["../chapter/x"] := by decide
  have hVerticals : partIds copyElement "vertical" = ["../chapter/x"] := by decide
  obtain ⟨hThere, hTop⟩ := copiesDisk_top hName
  refine ⟨hThere, hTop, rfl, ?_, rfl⟩
  rw [HasChapters, hChapters]
  refine .cons (hPart (by decide) ?_) .nil
  rw [HasSequentials, hSequentials]
  refine .cons (hPart (by decide) ?_) .nil
  rw [HasVerticals, hVerticals]
  exact .cons (hPart (by decide) collect_copyElement.symm) .nil

/-- None of the references in a copy leads out of it. -/
theorem copiesDisk_confined (hName : name ∈ ["c", "copy"]) :
    CourseConfined copiesDisk ⟨.relative, [name]⟩ knownKinds := by
  have hRead {level id : String} (hPart : (level, id) ∈ copyParts) {P : Xml.Element → Prop}
      (hP : P copyElement) (part : Xml.Element)
      (h : readXml copiesDisk (partPath ⟨.relative, [name]⟩ level id) = .ok part) : P part := by
    cases (copiesDisk_part hName hPart).2.symm.trans h
    exact hP
  have hVertical : VerticalConfined knownKinds copyElement := by
    unfold VerticalConfined
    rw [collect_copyElement, List.forall_mem_singleton]
    exact fun _ => by decide
  have hSequential : SequentialConfined copiesDisk ⟨.relative, [name]⟩ knownKinds copyElement := by
    have hOnly : partIds copyElement "vertical" = ["../chapter/x"] := by decide
    rw [SequentialConfined, PartsConfined, hOnly, List.forall_mem_singleton]
    exact ⟨by decide, hRead (by decide) hVertical⟩
  have hChapter : ChapterConfined copiesDisk ⟨.relative, [name]⟩ knownKinds copyElement := by
    have hOnly : partIds copyElement "sequential" = ["../chapter/x"] := by decide
    rw [ChapterConfined, PartsConfined, hOnly, List.forall_mem_singleton]
    exact ⟨by decide, hRead (by decide) hSequential⟩
  obtain ⟨-, hTop⟩ := copiesDisk_top hName
  constructor
  · intro top h id hId
    cases hTop.symm.trans h
    cases hId
  · intro top full h hFull
    cases hTop.symm.trans h
    cases hFull
    have hOnly : partIds copyTop "chapter" = ["x"] := by decide
    rw [PartsConfined, hOnly, List.forall_mem_singleton]
    exact ⟨by decide, hRead (by decide) hChapter⟩

/-- The problem of a copy has no file. -/
theorem copiesDisk_problem (hName : name ∈ ["c", "copy"]) :
    (Source.mk (.standard {}) copiesDisk ⟨.relative, [name]⟩).componentText
        ⟨"problem", "unknown", none⟩ =
      .error (.component (.missing .problem ⟨.relative, [name, "problem", "unknown.xml"]⟩)) := by
  have hKind : Text.lower "problem" = "problem" := by decide
  have hPath : componentPath ⟨.relative, [name]⟩ "problem" "unknown" ".xml" =
      ⟨.relative, [name, "problem", "unknown.xml"]⟩ := by
    revert name
    decide
  have hWalk : copiesDisk.tree.walk [] [name, "problem", "unknown.xml"] = .error .missing := by
    revert name
    decide
  have hGone : copiesDisk.has ⟨.relative, [name, "problem", "unknown.xml"]⟩ = .ok false := by
    rw [Disk.has, Disk.ask, Disk.entry, copiesDisk_locate hName (by decide), hWalk]
    rfl
  rw [Source.componentText, standard_load, hKind]
  dsimp only
  rw [loadProblem, hPath, needFile, hGone]
  rfl

/-- A copy has an outline, and a document in which the problem is a placeholder. -/
theorem copiesDisk_document (hName : name ∈ ["c", "copy"]) :
    let outcome := (Source.mk (.standard {}) copiesDisk ⟨.relative, [name]⟩).outcome
    (∃ s, (readOutline copiesDisk ⟨.relative, [name]⟩ knownKinds).run [] =
      (.ok (copyOutline name), s)) ∧
    ∃ p, (writeDocument {} (.standard {}) copiesDisk (copyOutline name) none).run {} =
      (.ok (documentText outcome {} (copyOutline name)), p) := by
  have hGoesOn : ∀ ref ∈ (copyOutline name).references,
      (Source.mk (.standard {}) copiesDisk ⟨.relative, [name]⟩).GoesOn ref := by
    have hOnly : (copyOutline name).references = [⟨"problem", "unknown", none⟩] := rfl
    rw [hOnly, List.forall_mem_singleton]
    intro e he
    cases (copiesDisk_problem hName).symm.trans he
    rfl
  exact ⟨readOutline_eq_ok_iff.mpr ⟨_, _, copiesDisk_isOutline hName⟩,
    _, writeDocument_run rfl hGoesOn {}⟩

end

/-- A document that is written for the course in a directory. -/
def IsDocumentOf (d : Disk) (root : Path) (text : String) : Prop :=
  ∃ o s p, (readOutline d root knownKinds).run [] = (.ok o, s) ∧
    (writeDocument {} (.standard {}) d o none).run {} = (.ok text, p)

/-- Two copies of a course have documents, and the problem in it fails alike in both. -/
theorem copies_fail_alike :
    let here : Path := ⟨.relative, ["c"]⟩
    let there : Path := ⟨.relative, ["copy"]⟩
    copiesDisk.SameAt here copiesDisk there ∧ CourseConfined copiesDisk here knownKinds ∧
    (∃ text, IsDocumentOf copiesDisk here text) ∧ (∃ text, IsDocumentOf copiesDisk there text) ∧
    Load.Alike here there Eq
      ((Source.mk (.standard {}) copiesDisk here).componentText ⟨"problem", "unknown", none⟩)
      ((Source.mk (.standard {}) copiesDisk there).componentText ⟨"problem", "unknown", none⟩) := by
  intro here there
  have hConfined : CourseConfined copiesDisk here knownKinds := copiesDisk_confined (by decide)
  obtain ⟨⟨s, hOutline⟩, p, hText⟩ := copiesDisk_document (by decide : "c" ∈ ["c", "copy"])
  obtain ⟨⟨t, hOutline'⟩, q, hText'⟩ := copiesDisk_document (by decide : "copy" ∈ ["c", "copy"])
  obtain ⟨-, -, -, hAlike, -⟩ :=
    documents_elsewhere copiesDisk_sameAt hConfined {} hOutline hOutline' hText hText'
  exact ⟨copiesDisk_sameAt, hConfined, ⟨_, _, s, p, hOutline, hText⟩, ⟨_, _, t, q, hOutline', hText'⟩,
    hAlike _ (List.mem_singleton_self _)⟩

/-! ## Two courses that refer to a file outside -/

/-- A disk with two copies of a course that is described in a file above it, and with this file above
one of them. -/
def outsideDisk : Disk where
  tree := ⟨[(["x.xml"], .file (.ofText "<course display_name='A'/>")), (["t"], .directory)] ++
    [["c"], ["t", "c"]].flatMap fun l => [(l, .directory), (l ++ ["course"], .directory),
      (l ++ ["course.xml"], .file (.ofText "<course url_name='../../x'/>"))]⟩

/-- The paths that are looked for in these courses. -/
def outsidePaths : List (List String) :=
  [["c", "course.xml"], ["c", "course", "..", "..", "x.xml"], ["t", "c", "course.xml"],
    ["t", "c", "course", "..", "..", "x.xml"]]

theorem outsideDisk_locate {names : List String} (hNames : names ∈ outsidePaths) :
    outsideDisk.locate ⟨.relative, names⟩ = outsideDisk.tree.walk [] names := by
  have hWritable : (⟨.relative, names⟩ : Path).IsWritable := by
    revert names
    decide
  exact Disk.locate_eq_walk _ hWritable

theorem outsideDisk_sameAt :
    outsideDisk.SameAt ⟨.relative, ["c"]⟩ outsideDisk ⟨.relative, ["t", "c"]⟩ := by
  have hHere : outsideDisk.locate ⟨.relative, ["c"]⟩ = .ok ["c"] :=
    Disk.locate_eq_walk _ (by decide)
  have hThere : outsideDisk.locate ⟨.relative, ["t", "c"]⟩ = .ok ["t", "c"] :=
    Disk.locate_eq_walk _ (by decide)
  refine .reached hHere hThere (fun names => ?_) fun names => ?_
  · simp [Tree.find?, outsideDisk, List.lookup_cons]
  · simp [Tree.inDirectory, outsideDisk, List.filterMap_cons]

section

variable {d : Disk} {root : Path} {top full : Xml.Element} {title : String}

/-- The document of a course without chapters has nothing but a header and a footer. -/
theorem isDocumentOf_of_no_chapter (hHas : d.has (coursePath root) = .ok true)
    (hTop : readXml d (coursePath root) = .ok top) (hFull : describingElement d root top = .ok full)
    (hNone : partIds full "chapter" = []) (hTitle : courseTitle top full = title) :
    IsDocumentOf d root (joinLines (headerLines {} title ++ footerLines)) := by
  subst hTitle
  exact ⟨_, _, _, readOutline_of_no_chapter hHas hTop hFull hNone [], rfl⟩

end

/-- One of the two courses is described in the file above it, the other one has its name for a
title. -/
theorem outsideDisk_documents :
    IsDocumentOf outsideDisk ⟨.relative, ["c"]⟩ (joinLines (headerLines {} "A" ++ footerLines)) ∧
    IsDocumentOf outsideDisk ⟨.relative, ["t", "c"]⟩
      (joinLines (headerLines {} "../../x" ++ footerLines)) := by
  let top : Xml.Element := ⟨"course", [("url_name", "../../x")], []⟩
  let other : Xml.Element := ⟨"course", [("display_name", "A")], []⟩
  have hTop {l : List String} (hNames : l ++ ["course.xml"] ∈ outsidePaths)
      (hWalk : outsideDisk.tree.walk [] (l ++ ["course.xml"]) = .ok (l ++ ["course.xml"]))
      (hFile : outsideDisk.tree.find? (l ++ ["course.xml"]) =
        some (.file (.ofText "<course url_name='../../x'/>"))) :
      outsideDisk.has (coursePath ⟨.relative, l⟩) = .ok true ∧
        readXml outsideDisk (coursePath ⟨.relative, l⟩) = .ok top := by
    have hEntry : outsideDisk.entry (coursePath ⟨.relative, l⟩) = .ok (.file _) :=
      Disk.entry_of_locate ((outsideDisk_locate hNames).trans hWalk) hFile
    exact ⟨Disk.ask_of_entry hEntry _, readXml_escaping (Disk.read_of_entry hEntry)⟩
  constructor
  · have hPath : partPath ⟨.relative, ["c"]⟩ "course" "../../x" =
        ⟨.relative, ["c", "course", "..", "..", "x.xml"]⟩ := by decide
    have hWalk : outsideDisk.locate ⟨.relative, ["c", "course", "..", "..", "x.xml"]⟩ =
        .ok ["x.xml"] := (outsideDisk_locate (by decide)).trans (by decide)
    have hOther : outsideDisk.entry (partPath ⟨.relative, ["c"]⟩ "course" "../../x") =
        .ok (.file (.ofText "<course display_name='A'/>")) := by
      rw [hPath]
      exact Disk.entry_of_locate hWalk rfl
    have hFull : describingElement outsideDisk ⟨.relative, ["c"]⟩ top = .ok other :=
      (describingElement_of_there rfl (Disk.ask_of_entry hOther _)).trans
        (readXml_other (Disk.read_of_entry hOther))
    obtain ⟨hHas, hRead⟩ := hTop (l := ["c"]) (by decide) (by decide) rfl
    exact isDocumentOf_of_no_chapter hHas hRead hFull rfl (by decide)
  · have hPath : partPath ⟨.relative, ["t", "c"]⟩ "course" "../../x" =
        ⟨.relative, ["t", "c", "course", "..", "..", "x.xml"]⟩ := by decide
    have hWalk : outsideDisk.locate ⟨.relative, ["t", "c", "course", "..", "..", "x.xml"]⟩ =
        .ok ["t", "x.xml"] := (outsideDisk_locate (by decide)).trans (by decide)
    have hGone : outsideDisk.has (partPath ⟨.relative, ["t", "c"]⟩ "course" "../../x") =
        .ok false := by
      rw [hPath]
      exact Disk.ask_of_none hWalk rfl _
    have hFull : describingElement outsideDisk ⟨.relative, ["t", "c"]⟩ top = .ok top :=
      describingElement_of_missing rfl hGone
    obtain ⟨hHas, hRead⟩ := hTop (l := ["t", "c"]) (by decide) (by decide) rfl
    exact isDocumentOf_of_no_chapter hHas hRead hFull rfl (by decide)

/-- The documents of two copies are not the same: the placeholder for the problem tells where its file
has been looked for. Neither are they if the course is described in a file above it, which only one of
the copies has. -/
theorem documents_tell_places :
    let top := fun name : String => (⟨.relative, [name]⟩ : Path)
    let inside := fun name : String => (⟨.relative, ["t", name]⟩ : Path)
    (copiesDisk.SameAt (top "c") copiesDisk (top "copy") ∧
      ∃ text text', IsDocumentOf copiesDisk (top "c") text ∧
        IsDocumentOf copiesDisk (top "copy") text' ∧ text' ≠ text) ∧
    outsideDisk.SameAt (top "c") outsideDisk (inside "c") ∧
      ∃ text text', IsDocumentOf outsideDisk (top "c") text ∧
        IsDocumentOf outsideDisk (inside "c") text' ∧ text' ≠ text := by
  intro top inside
  constructor
  · refine ⟨copiesDisk_sameAt, ?_⟩
    obtain ⟨⟨s, hOutline⟩, p, hText⟩ := copiesDisk_document (by decide : "c" ∈ ["c", "copy"])
    obtain ⟨⟨t, hOutline'⟩, q, hText'⟩ := copiesDisk_document (by decide : "copy" ∈ ["c", "copy"])
    refine ⟨_, _, ⟨_, s, p, hOutline, hText⟩, ⟨_, t, q, hOutline', hText'⟩, fun hEq => ?_⟩
    -- one of the messages is longer than the other, and all else is the same
    have hHere : (Source.mk (.standard {}) copiesDisk (top "c")).outcome
        ⟨"problem", "unknown", none⟩ = .error "Problem file not found: c/problem/unknown.xml" := by
      rw [Source.outcome, copiesDisk_problem (by decide)]
      decide
    have hThere : (Source.mk (.standard {}) copiesDisk (top "copy")).outcome
        ⟨"problem", "unknown", none⟩ = .error "Problem file not found: copy/problem/unknown.xml" := by
      rw [Source.outcome, copiesDisk_problem (by decide)]
      decide
    generalize (Source.mk (.standard {}) copiesDisk (top "c")).outcome = outcome at hHere hEq
    generalize (Source.mk (.standard {}) copiesDisk (top "copy")).outcome = outcome' at hThere hEq
    have hLength := congrArg String.length hEq
    simp [copyOutline, documentText, Chapter.text, Sequential.text, blocks, blockLines, hHere, hThere,
      placeholder, joinLines, String.length_append, headerLines, footerLines] at hLength
    exact absurd hLength (by decide)
  · obtain ⟨hText, hText'⟩ := outsideDisk_documents
    exact ⟨outsideDisk_sameAt, _, _, hText, hText', by decide⟩

end Coursebook.Course
