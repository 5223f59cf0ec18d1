import Mathlib
import Coursebook.Proofs.Course.Confined
import Coursebook.Proofs.Course.Registry

/-!
# Coursebook — a conversion reads its course only

Of a course none of whose references leads out of it, a conversion sees nothing but what is below
its directory: on two disks that have the same there, the outline is the same, and so is the
document, with the components that have failed.

* `load_same`, `readOutline_same` — components and outline.
* `conversion_same` — outline and document.
* `escaping_reference` — a course with a reference that leads out of it.
-/

namespace Coursebook.Course

open Coursebook.Files

variable {d d' : Disk} {root p : Path}

/-! ## Files -/

theorem readXml_same (h : d.SameBelow d' root) (hp : p.IsWithin root) :
    readXml d' p = readXml d p := by
  unfold readXml
  rw [h.read hp]

theorem readComponentXml_same (h : d.SameBelow d' root) (hp : p.IsWithin root) (id : String) :
    readComponentXml d' p id = readComponentXml d p id := by
  unfold readComponentXml
  rw [readXml_same h hp]

theorem readText_same (h : d.SameBelow d' root) (hp : p.IsWithin root) :
    readText d' p = readText d p := by
  unfold readText
  rw [h.read hp]

theorem needFile_same (h : d.SameBelow d' root) (hp : p.IsWithin root) (file : ComponentFile) :
    needFile d' file p = needFile d file p := by
  unfold needFile
  rw [h.has hp]

/-! ## Components -/

theorem loadHtml_same (h : d.SameBelow d' root) {ref : Reference} (hRef : IsConfined ref.id) :
    loadHtml d' root ref = loadHtml d root ref := by
  have hMetadata : (componentPath root "html" ref.id ".xml").IsWithin root :=
    componentPath_isWithin (by decide) (by decide) hRef (by decide)
  have hBody : (componentPath root "html" ref.id ".html").IsWithin root :=
    componentPath_isWithin (by decide) (by decide) hRef (by decide)
  unfold loadHtml
  simp only [needFile_same h hMetadata, needFile_same h hBody, readComponentXml_same h hMetadata,
    readText_same h hBody]

theorem loadProblem_same (h : d.SameBelow d' root) {ref : Reference} (hRef : IsConfined ref.id) :
    loadProblem d' root ref = loadProblem d root ref := by
  have hFile : (componentPath root "problem" ref.id ".xml").IsWithin root :=
    componentPath_isWithin (by decide) (by decide) hRef (by decide)
  unfold loadProblem
  simp only [needFile_same h hFile, readComponentXml_same h hFile]

theorem loadVideo_same (h : d.SameBelow d' root) {ref : Reference} (hRef : IsConfined ref.id) :
    loadVideo d' root ref = loadVideo d root ref := by
  have hFile : (componentPath root "video" ref.id ".xml").IsWithin root :=
    componentPath_isWithin (by decide) (by decide) hRef (by decide)
  unfold loadVideo
  simp only [needFile_same h hFile, readComponentXml_same h hFile]

/-- Names in order are the same, in whatever order a directory gives them. -/
theorem mergeSort_congr {names names' : List String} (h : names'.Perm names) :
    names'.mergeSort (fun a b => decide (a ≤ b)) = names.mergeSort fun a b => decide (a ≤ b) := by
  have hSorted (names : List String) :
      (names.mergeSort fun a b => decide (a ≤ b)).Pairwise fun a b => decide (a ≤ b) = true :=
    List.pairwise_mergeSort (fun a b c hab hbc => by simp_all; exact le_trans hab hbc)
      (fun a b => by simpa using le_total a b) names
  refine List.Perm.eq_of_pairwise (fun a b _ _ hab hba => ?_) (hSorted names') (hSorted names) ?_
  · exact le_antisymm (by simpa using hab) (by simpa using hba)
  · exact (List.mergeSort_perm _ _).trans (h.trans (List.mergeSort_perm _ _).symm)

theorem pagesIn_same (h : d.SameBelow d' root) (hp : p.IsWithin root) :
    pagesIn d' p = pagesIn d p := by
  unfold pagesIn
  extract_lets pages' pages
  have hPages : pages'.Perm pages := (h.list hp).filterMap _
  rw [mergeSort_congr hPages]

theorem loadAbout_same (h : d.SameBelow d' root) (ref : Reference) :
    loadAbout d' root ref = loadAbout d root ref := by
  have hDirectory := aboutDirectory_isWithin root
  have hPage : aboutPage? d' (root.child "about") = aboutPage? d (root.child "about") := by
    have hOverview : ((root.child "about").child "overview.html").IsWithin root :=
      aboutPage_isWithin root "overview.html"
    unfold aboutPage?
    simp only [h.isFile hOverview, pagesIn_same h hDirectory]
  unfold loadAbout
  simp only [h.isDirectory hDirectory, hPage]
  cases hFound : aboutPage? d (root.child "about") with
  | error e => rfl
  | ok found =>
    cases found with
    | none => rfl
    | some page =>
      have hText := readText_same h (isWithin_of_aboutPage? hFound)
      simp only [hText, bind_ok, bind_error]

theorem load_same (h : d.SameBelow d' root) (config : Config) {ref : Reference}
    (hRef : ref.IsConfined) :
    (Registry.standard config).load d' root ref = (Registry.standard config).load d root ref := by
  unfold Reference.IsConfined at hRef
  rw [standard_load, standard_load]
  split
  · rename_i hKind
    exact loadHtml_same h (hRef (by simp [hKind]))
  · rename_i hKind
    exact loadProblem_same h (hRef (by simp [hKind]))
  · rename_i hKind
    exact loadVideo_same h (hRef (by simp [hKind]))
  · exact loadAbout_same h ref
  · rfl

theorem componentText_same (h : d.SameBelow d' root) (config : Config) {ref : Reference}
    (hRef : ref.IsConfined) :
    (Source.mk (.standard config) d' root).componentText ref =
      (Source.mk (.standard config) d root).componentText ref := by
  unfold Source.componentText
  dsimp only
  rw [load_same h config hRef]

/-! ## The outline -/

section

variable {kinds : List String} {e : Xml.Element}

theorem readParts_same {α β : Type} (h : d.SameBelow d' root) {level : String}
    (hLevel : level ∈ ["course", "chapter", "sequential", "vertical"]) {P : Xml.Element → Prop}
    (hParts : PartsConfined d root level P e) {make : String → String → List β → α}
    {inside inside' : Xml.Element → Reading (List β)}
    (hInside : ∀ part, P part → inside' part = inside part) :
    readParts d' root level make inside' (partIds e level) =
      readParts d root level make inside (partIds e level) := by
  refine readParts_congr fun id hId => ?_
  obtain ⟨hConfined, hPart⟩ := hParts id hId
  have hWithin : (partPath root level id).IsWithin root := partPath_isWithin hLevel hConfined
  exact ⟨h.has hWithin, readXml_same h hWithin, fun part hRead => hInside part (hPart part hRead)⟩

theorem readVerticals_same (h : d.SameBelow d' root) (hParts : SequentialConfined d root kinds e) :
    readVerticals d' root kinds e = readVerticals d root kinds e :=
  readParts_same h (by decide) hParts fun _ _ => rfl

theorem readSequentials_same (h : d.SameBelow d' root) (hParts : ChapterConfined d root kinds e) :
    readSequentials d' root kinds e = readSequentials d root kinds e :=
  readParts_same h (by decide) hParts fun _ hPart => readVerticals_same h hPart

theorem readChapters_same (h : d.SameBelow d' root)
    (hParts : PartsConfined d root "chapter" (ChapterConfined d root kinds) e) :
    readChapters d' root kinds e = readChapters d root kinds e :=
  readParts_same h (by decide) hParts fun _ hPart => readSequentials_same h hPart

theorem describingElement_same (h : d.SameBelow d' root)
    (hName : ∀ id, e.filled? "url_name" = some id → IsConfined id) :
    describingElement d' root e = describingElement d root e := by
  unfold describingElement
  cases hId : e.filled? "url_name" with
  | none => rfl
  | some id =>
    have hWithin : (partPath root "course" id).IsWithin root :=
      partPath_isWithin (by decide) (hName id hId)
    simp only [h.has hWithin, readXml_same h hWithin]

theorem coursePath_isWithin (root : Path) : (coursePath root).IsWithin root := by
  have hNames : ".." ∉ ["course.xml"] := by decide
  exact Path.isWithin_below (List.cons_ne_nil _ _) hNames

theorem readOutline_same (h : d.SameBelow d' root) (hCourse : CourseConfined d root kinds) :
    readOutline d' root kinds = readOutline d root kinds := by
  refine ExceptT.ext (funext fun s => ?_)
  show (readOutline d' root kinds).run s = (readOutline d root kinds).run s
  have hWithin := coursePath_isWithin root
  rw [readOutline_run, readOutline_run, h.has hWithin, readXml_same h hWithin]
  cases hTop : readXml d (coursePath root) with
  | error e => rfl
  | ok top =>
    simp only [describingElement_same h (hCourse.name top hTop)]
    cases hFull : describingElement d root top with
    | error e => rfl
    | ok full => simp only [readChapters_same h (hCourse.parts top full hTop hFull)]

end

/--
**A conversion reads its course only.** On two disks with the same below the directory of a course,
the outline of the course is the same if none of the references that it comes to leads out of the
course. So is the document of that outline, or of any other with confined references: its text, the
components that have failed, and the failure that may end it.
-/
theorem conversion_same (h : d.SameBelow d' root) {kinds : List String}
    (hCourse : CourseConfined d root kinds) (config : Config) :
    readOutline d' root kinds = readOutline d root kinds ∧
    ∀ o given, (given <|> o.root) = some root →
      ((∃ s s', (readOutline d root kinds).run s = (.ok o, s')) ∨
        ∀ ref ∈ o.references, ref.IsConfined) →
      writeDocument config (.standard config) d' o given =
        writeDocument config (.standard config) d o given := by
  refine ⟨readOutline_same h hCourse, fun o given hRoot hOutline => ?_⟩
  have hRefs : ∀ ref ∈ o.references, ref.IsConfined := by
    rcases hOutline with ⟨s, s', hRun⟩ | hRefs
    · exact readOutline_confined hCourse hRun
    · exact hRefs
  exact writeDocument_congr hRoot fun ref hRef => componentText_same h config (hRefs ref hRef)

/-- What is read from a file that starts as the element of a course does. -/
theorem readXml_of_start {c : Content} {e : Xml.Element} (hRead : d.read p = .ok c)
    (hStart : c.bytes.take 2 = [0x3c, 0x63])
    (hRoot : ((Xml.Source.mk .utf8 [] c.bytes).root false).map Xml.Item.element? =
      .ok (some e)) : readXml d p = .ok e := by
  obtain ⟨r, hBytes⟩ : ∃ r, c.bytes = 0x3c :: 0x63 :: r :=
    ⟨c.bytes.drop 2, (List.take_append_drop 2 c.bytes).symm.trans (by rw [hStart]; rfl)⟩
  have hSource : Xml.Source.ofBytes? c.bytes = some ⟨.utf8, [], c.bytes⟩ := by
    rw [hBytes]
    rfl
  rw [readXml, hRead]
  show (Xml.Element.read c.bytes false).mapError (Failure.xml p) = .ok e
  unfold Xml.Element.read
  rw [hSource]
  cases hItem : (Xml.Source.mk .utf8 [] c.bytes).root false with
  | error fault =>
    rw [hItem] at hRoot
    cases hRoot
  | ok item =>
    rw [hItem] at hRoot
    have hElement : item.element? = some e := Except.ok.inj hRoot
    simp [hItem, hElement]

/-- A disk with a course of which there is only `course.xml`. -/
def courseDisk (document : String) : Disk where
  tree := ⟨[(["c"], .directory), (["c", "course"], .directory),
    (["c", "course.xml"], .file (.ofText document))]⟩

theorem courseDisk_sameBelow (document : String) (e : Entry) :
    (courseDisk document).SameBelow ((courseDisk document).put ["x.xml"] e) ⟨.relative, ["c"]⟩ := by
  have hWritable : (⟨.relative, ["c"]⟩ : Path).IsWritable := ⟨by decide, by decide⟩
  have hHere (d : Disk) (h : d.here = []) : d.locate ⟨.relative, ["c"]⟩ = .ok ["c"] := by
    rw [d.locate_eq_walk hWritable, Disk.start]
    dsimp only
    rw [h]
    exact Tree.walk_singleton rfl (by decide) (by decide)
  refine Disk.sameBelow_put (hHere _ rfl) (hHere _ rfl) (List.cons_ne_nil _ _) ?_
  decide

/-- A reference may go back within its course. -/
theorem confined_course_same :
    let d := courseDisk "<course><chapter url_name='../a'/></course>"
    let d' := d.put ["x.xml"] .directory
    let root : Path := ⟨.relative, ["c"]⟩
    let o : Outline := ⟨"c", "c", [⟨"a", "a", [⟨"s", "s", [⟨"v", "v", [⟨"html", "../p", none⟩]⟩]⟩]⟩],
      some root⟩
    readOutline d' root knownKinds = readOutline d root knownKinds ∧
      writeDocument {} (.standard {}) d' o none = writeDocument {} (.standard {}) d o none := by
  intro d d' root o
  have hFile : d.read (coursePath root) =
      .ok (.ofText "<course><chapter url_name='../a'/></course>") := by cbv
  have hTop : readXml d (coursePath root) =
      .ok ⟨"course", [], [.element "chapter" [("url_name", "../a")] []]⟩ :=
    readXml_of_start hFile (by cbv) (by cbv)
  have hChapter : readXml d (partPath root "chapter" "../a") =
      .error (.file ⟨.missing, partPath root "chapter" "../a"⟩) := by cbv
  have hCourse : CourseConfined d root knownKinds := by
    constructor
    · intro top h id hId
      rw [hTop] at h
      cases h
      cases hId
    · intro top full h hFull id hId
      rw [hTop] at h
      cases h
      cases hFull
      have hOnly : partIds ⟨"course", [], [.element "chapter" [("url_name", "../a")] []]⟩ "chapter" =
          ["../a"] := by decide
      rw [hOnly, List.mem_singleton] at hId
      subst hId
      refine ⟨by decide, fun part hPart => ?_⟩
      rw [hChapter] at hPart
      cases hPart
  have hSame := conversion_same (courseDisk_sameBelow _ .directory) hCourse {}
  refine ⟨hSame.1, hSame.2 o none rfl (.inr fun ref hRef => ?_)⟩
  have hOnly : ref = ⟨"html", "../p", none⟩ := by
    simpa [o, Outline.references, Chapter.references, Sequential.references] using hRef
  subst hOnly
  intro _
  decide

/-- The element of a course that is described in full in a file above it. -/
theorem readXml_escaping (h : d.read p = .ok (.ofText "<course url_name='../../x'/>")) :
    readXml d p = .ok ⟨"course", [("url_name", "../../x")], []⟩ :=
  readXml_of_start h (by cbv) (by cbv)

theorem readXml_other (h : d.read p = .ok (.ofText "<course display_name='A'/>")) :
    readXml d p = .ok ⟨"course", [("display_name", "A")], []⟩ :=
  readXml_of_start h (by cbv) (by cbv)

/-- The outline of a course without chapters. -/
theorem readOutline_of_no_chapter {kinds : List String} {top full : Xml.Element}
    (hHas : d.has (coursePath root) = .ok true) (hTop : readXml d (coursePath root) = .ok top)
    (hFull : describingElement d root top = .ok full) (hNone : partIds full "chapter" = [])
    (s : List Notice) :
    (readOutline d root kinds).run s =
      (.ok ⟨courseId top full, courseTitle top full, [], some root⟩,
        s ++ [.readCourse (courseTitle top full) 0]) := by
  rw [readOutline_run, hHas, hTop]
  simp only [hFull, readChapters, hNone]
  rfl

/-- A course whose `course.xml` names a file outside: what stands there is taken for the description
of the course. -/
theorem escaping_reference :
    let d := courseDisk "<course url_name='../../x'/>"
    let d' := d.put ["x.xml"] (.file (.ofText "<course display_name='A'/>"))
    let root : Path := ⟨.relative, ["c"]⟩
    d.SameBelow d' root ∧ readOutline d' root knownKinds ≠ readOutline d root knownKinds := by
  intro d d' root
  have hSame : d.SameBelow d' root := courseDisk_sameBelow _ _
  refine ⟨hSame, fun hEq => ?_⟩
  let top : Xml.Element := ⟨"course", [("url_name", "../../x")], []⟩
  let other : Xml.Element := ⟨"course", [("display_name", "A")], []⟩
  have hTop : readXml d (coursePath root) = .ok top := readXml_escaping (by cbv)
  have hTop' : readXml d' (coursePath root) = .ok top :=
    (readXml_same hSame (coursePath_isWithin root)).trans hTop
  have hInside : describingElement d root top = .ok top := by
    have hHas : d.has (partPath root "course" "../../x") = .ok false := by cbv
    show (do if ← ofDisk (d.has (partPath root "course" "../../x")) then _ else _) = _
    rw [hHas]
    rfl
  have hOutside : describingElement d' root top = .ok other := by
    have hHas : d'.has (partPath root "course" "../../x") = .ok true := by cbv
    have hOther : readXml d' (partPath root "course" "../../x") = .ok other :=
      readXml_other (by cbv)
    show (do if ← ofDisk (d'.has (partPath root "course" "../../x")) then _ else _) = _
    rw [hHas]
    exact hOther
  have hHas : d.has (coursePath root) = .ok true := by cbv
  have hHas' : d'.has (coursePath root) = .ok true :=
    (hSame.has (coursePath_isWithin root)).trans hHas
  have hRun : (readOutline d root knownKinds).run [] = _ :=
    readOutline_of_no_chapter hHas hTop hInside rfl []
  have hRun' : (readOutline d' root knownKinds).run [] = _ :=
    readOutline_of_no_chapter hHas' hTop' hOutside rfl []
  rw [hEq, hRun] at hRun'
  have hTitle : courseTitle top top = courseTitle top other :=
    congrArg Outline.title (Except.ok.inj (Prod.mk.inj hRun').1)
  exact absurd hTitle (by decide)

end Coursebook.Course
