import Mathlib.Data.List.Dedup
import Coursebook.Proofs.Conversion.Single
import Coursebook.Proofs.Course.Assembly
import Coursebook.Proofs.Course.Reached

/-!
# Coursebook — reports account for their courses

The numbers in a report are taken from the outline of a course, from the tally of its document and
from that tally by kind. All of them are numbers of things in the files of the course: references with
a name, elements that stand for components, and those of them that cannot be loaded or written.

* `sum_countKinds`, `mem_countKinds` — failures by kind.
* `report_eq_of_convertDirectory` — where the numbers of a report come from.
* `report_accounts` — what they are.
-/

namespace Coursebook

open Course Files

/-! ## Failures by kind -/

theorem nodup_eraseDups : (l : List String) → l.eraseDups.Nodup
  | [] => by simp
  | a :: r => by
    rw [List.eraseDups_cons, List.nodup_cons]
    exact ⟨by simp [List.mem_eraseDups], nodup_eraseDups (r.filter fun b => !b == a)⟩
  termination_by l => l.length
  decreasing_by exact Nat.lt_succ_of_le (List.length_filter_le _ _)

namespace Report

variable {failed : List FailedComponent}

theorem keys_countKinds (failed : List FailedComponent) :
    (countKinds failed).map (·.1) = (failed.map (·.kind)).eraseDups := by
  rw [countKinds, List.map_map]
  exact List.map_id _

theorem mem_countKinds {kind : String} {n : Nat} :
    (kind, n) ∈ countKinds failed ↔ n = failed.countP (·.kind == kind) ∧ 0 < n := by
  rw [countKinds, List.mem_map]
  constructor
  · rintro ⟨kind', hKind, hEq⟩
    cases hEq
    rw [List.mem_eraseDups, List.mem_map] at hKind
    obtain ⟨f, hf, rfl⟩ := hKind
    rw [← List.countP_eq_length_filter]
    exact ⟨rfl, List.countP_pos_iff.mpr ⟨f, hf, beq_self_eq_true _⟩⟩
  · rintro ⟨rfl, hSome⟩
    obtain ⟨f, hf, hKind⟩ := List.countP_pos_iff.mp hSome
    refine ⟨kind, ?_, by rw [List.countP_eq_length_filter]⟩
    rw [List.mem_eraseDups, ← eq_of_beq hKind]
    exact List.mem_map_of_mem hf

/-- Counted by kind, the failures are as many as there are. -/
theorem sum_countKinds (failed : List FailedComponent) :
    ((countKinds failed).map (·.2)).sum = failed.length := by
  let kinds := failed.map (·.kind)
  have hPerm : kinds.eraseDups.Perm kinds.dedup :=
    (List.perm_ext_iff_of_nodup (nodup_eraseDups kinds) kinds.nodup_dedup).mpr fun kind => by
      rw [List.mem_eraseDups, List.mem_dedup]
  have hCount (kind : String) :
      (failed.filter (·.kind == kind)).length = kinds.count kind := by
    rw [List.count_eq_countP, List.countP_map, List.countP_eq_length_filter]
    rfl
  calc ((countKinds failed).map (·.2)).sum
      = (kinds.eraseDups.map fun kind => kinds.count kind).sum := by
        rw [countKinds, List.map_map]
        exact congrArg List.sum (List.map_congr_left fun kind _ => hCount kind)
    _ = (kinds.dedup.map fun kind => kinds.count kind).sum := (hPerm.map _).sum_eq
    _ = kinds.length := List.sum_map_count_dedup_eq_length kinds
    _ = failed.length := List.length_map _

end Report

/-! ## Failures in a document -/

/-- The failures of a kind in a tally are the components of that kind that have no text. -/
theorem Course.countP_failures {s : Source} (refs : List Reference) (kind : String) :
    (failures s.outcome refs).countP (·.kind == kind) =
      refs.countP fun ref => ref.kind == kind && !(s.componentText ref).isOk := by
  rw [failures, List.countP_filterMap]
  refine List.countP_congr fun ref _ => ?_
  rw [failure?, Source.outcome]
  cases s.componentText ref <;> simp [Except.isOk, Except.toBool]

/-! ## Reports -/

namespace Converter

variable {w w' : World} {root out : Path} {report : Report}

/-- What a report tells is taken from the outline of the course, and from the tally of its document. -/
theorem report_eq_of_convertDirectory (c : Converter)
    (h : (c.convertDirectory root out).run w = (.ok report, w')) :
    ∃ o tally markdownFile media, report = .ofCourse o tally markdownFile media ∧
      (∃ s s', (readOutline w.disk root c.registry.kinds).run s = (.ok o, s')) ∧
      ∃ text s p, (writeDocument c.config c.registry w.disk o (some root)).run ⟨{}, s⟩ =
        (.ok text, p) ∧ p.tally = tally := by
  obtain ⟨o, document, markdownFile, copies, -, -, hReport, hRead, ⟨s, w₁, hDocument⟩, -⟩ :=
    c.convertDirectory_eq_ok h
  refine ⟨o, document.2, markdownFile, copies.length, hReport, hRead, ?_⟩
  rw [makeDocument_run] at hDocument
  generalize hWritten : ExceptT.run (writeDocument _ _ _ _ _) _ = written at hDocument
  obtain ⟨ending, p⟩ := written
  cases ending with
  | error e => cases (Prod.mk.inj hDocument).1
  | ok text' =>
    cases hDocument
    exact ⟨_, _, p, hWritten, rfl⟩

/--
**A report accounts for its course.** If a course directory is converted, the report tells as many
chapters, sequentials and verticals as there are references with a name in the elements that are
reached one level above, whether or not there is a file for them. It tells as many components as the
verticals that are reached have children that stand for one, once for each way of reaching them.

Its failures are those of these components that cannot be loaded or written: the report tells their
number for each kind that has some, which add up to the number of all, and these are among the
components.
-/
theorem report_accounts {config : Config}
    (hRun : ((standard config).convertDirectory root out).run w = (.ok report, w')) :
    ∃ top full, readXml w.disk (coursePath root) = .ok top ∧
      describingElement w.disk root top = .ok full ∧
      let chapters := reached w.disk root "chapter" [full]
      let sequentials := reached w.disk root "sequential" chapters
      let verticals := reached w.disk root "vertical" sequentials
      let refs := verticals.flatMap (collect knownKinds)
      let fails := fun ref => !((Source.mk (.standard config) w.disk root).componentText ref).isOk
      let n := report.statistics
      n.chapters = referenceCount "chapter" [full] ∧
      n.sequentials = referenceCount "sequential" chapters ∧
      n.verticals = referenceCount "vertical" sequentials ∧
      n.components = componentCount knownKinds verticals ∧
      n.failedComponents = (report.failed.map (·.2)).sum ∧
      n.failedComponents ≤ n.components ∧
      (report.failed.map (·.1)).Nodup ∧
      ∀ kind count, (kind, count) ∈ report.failed ↔
        count = refs.countP (fun ref => ref.kind == kind && fails ref) ∧ 0 < count := by
  obtain ⟨o, tally, markdownFile, media, rfl, ⟨s, s', hOutline⟩, text, told, p, hText, hP⟩ :=
    report_eq_of_convertDirectory _ hRun
  obtain ⟨top, full, hIs⟩ := readOutline_eq_ok_iff.mp ⟨s', hOutline⟩
  refine ⟨top, full, hIs.starts, hIs.described, ?_⟩
  intro chapters sequentials verticals refs fails n
  have hRefs : o.references = refs := hIs.references_eq
  -- the document has been written, so the tally is known
  have hGiven : (some root <|> o.root) = some root := rfl
  have hWritten : (writeDocument config (.standard config) w.disk o (some root)).run ⟨{}, told⟩ = _ :=
    writeDocument_run hGiven (goesOn_of_writeDocument hGiven hText) ⟨{}, told⟩
  obtain ⟨failed, hFailed⟩ :
      ∃ failed, failed = failures (Source.mk (.standard config) w.disk root).outcome refs := ⟨_, rfl⟩
  obtain rfl : tally = ⟨refs.length, failed⟩ := by
    rw [← hP, (Prod.mk.inj (hText.symm.trans hWritten)).2, hRefs, hFailed]
    simp [Progress.past, standard]
  have hAmong : failed.length ≤ refs.length := hFailed ▸ List.length_filterMap_le _ _
  refine ⟨hIs.length_chapters, hIs.length_sequentials, hIs.length_verticals,
    length_flatMap_collect verticals, (Report.sum_countKinds failed).symm, hAmong, ?_, ?_⟩
  · exact (Report.keys_countKinds failed) ▸ nodup_eraseDups _
  · intro kind count
    rw [← countP_failures, ← hFailed]
    exact Report.mem_countKinds

/-- What is left to do for a course when it has been read and its document has been made. -/
theorem convertDirectory_run_of_outline (config : Config) (out : Path) {top full : Xml.Element}
    {o : Outline} (hOutline : IsOutline w.disk root (Registry.standard config).kinds top full o)
    (hAll : ∀ ref ∈ o.references, (Source.mk (.standard config) w.disk root).GoesOn ref) :
    ∃ text tally told, ((standard config).convertDirectory root out).run w =
      (Media.writeMarkdown config out text >>= fun path =>
        Media.copyAssets config root out >>= fun copies =>
          pure (Report.ofCourse o tally path copies.length)).run ⟨w.disk, told⟩ := by
  have hRoot : (World.reading (Reading.ofLoad (resolveRoot w.disk root))).run w = (.ok root, w) := by
    rw [resolveRoot, hOutline.there]
    rfl
  obtain ⟨told, hRead⟩ := readOutline_eq_ok_iff.mpr ⟨top, full, hOutline⟩
  have hReading : (World.reading (readOutline w.disk root (Registry.standard config).kinds)).run
      ⟨w.disk, w.notices ++ [.readingCourse]⟩ = (.ok o, ⟨w.disk, told⟩) := by
    rw [World.reading_run, hRead]
  have hGiven : (some root <|> o.root) = some root := rfl
  have hWritten : (writeDocument config (.standard config) w.disk o (some root)).run
      ⟨{}, told ++ [.converting]⟩ = _ := writeDocument_run hGiven hAll _
  have hDocument := makeDocument_run (standard config) o root ⟨w.disk, told ++ [.converting]⟩
  dsimp only [standard] at hDocument
  rw [hWritten] at hDocument
  rw [convertDirectory, run_bind_of_ok (World.getDisk_run w), run_bind_of_ok hRoot,
    run_bind_of_ok (World.tell_run _ _), run_bind_of_ok (World.getDisk_run _)]
  dsimp only [standard]
  rw [run_bind_of_ok hReading, run_bind_of_ok (World.tell_run _ _), run_bind_of_ok hDocument]
  dsimp only
  rw [run_bind_of_ok (World.tell_run _ _)]
  exact ⟨_, _, _, rfl⟩

end Converter

/-- A course whose one file stands for a chapter, for the sequential in it and for the vertical in
this, with a problem that has no file. -/
def nestedDisk : Disk where
  tree := ⟨[(["c"], .directory), (["c", "chapter"], .directory), (["c", "sequential"], .directory),
    (["c", "vertical"], .directory),
    (["c", "course.xml"], .file (.ofText "<course><chapter url_name='a'/></course>")),
    (["c", "chapter", "a.xml"], .file (.ofText
      "<c><sequential url_name='../chapter/a'/><vertical url_name='../chapter/a'/><problem/></c>"))]⟩

/-- The element of this file. -/
def nestedElement : Xml.Element :=
  ⟨"c", [], [.element "sequential" [("url_name", "../chapter/a")] [],
    .element "vertical" [("url_name", "../chapter/a")] [], .element "problem" [] []]⟩

theorem collect_nestedElement :
    collect knownKinds nestedElement = [⟨"problem", "unknown", none⟩] := by cbv

section

variable {root : Path}

/-- Where the paths of this course lead: on every level to the same file. -/
theorem nestedDisk_locate (hRoot : root = ⟨.relative, ["c"]⟩) :
    nestedDisk.locate (coursePath root) = .ok ["c", "course.xml"] ∧
    nestedDisk.locate (partPath root "chapter" "a") = .ok ["c", "chapter", "a.xml"] ∧
    nestedDisk.locate (partPath root "sequential" "../chapter/a") = .ok ["c", "chapter", "a.xml"] ∧
    nestedDisk.locate (partPath root "vertical" "../chapter/a") = .ok ["c", "chapter", "a.xml"] := by
  subst hRoot
  have hWalk (names : List String) {p : Path} (hp : p = ⟨.relative, names⟩)
      (hWritable : (⟨.relative, names⟩ : Path).IsWritable) :
      nestedDisk.locate p = nestedDisk.tree.walk [] names := by
    rw [hp, Disk.locate_eq_walk _ hWritable]
    rfl
  refine ⟨?_, ?_, ?_, ?_⟩
  · rw [hWalk ["c", "course.xml"] (by decide) ⟨by decide, by decide⟩]
    decide
  · rw [hWalk ["c", "chapter", "a.xml"] (by decide) ⟨by decide, by decide⟩]
    decide
  · rw [hWalk ["c", "sequential", "..", "chapter", "a.xml"] (by decide) ⟨by decide, by decide⟩]
    decide
  · rw [hWalk ["c", "vertical", "..", "chapter", "a.xml"] (by decide) ⟨by decide, by decide⟩]
    decide

theorem nestedDisk_element? {p : Path} (h : nestedDisk.locate p = .ok ["c", "chapter", "a.xml"]) :
    nestedDisk.has p = .ok true ∧ readXml nestedDisk p = .ok nestedElement := by
  have hEntry : nestedDisk.entry p = .ok (.file _) := Disk.entry_of_locate h rfl
  exact ⟨Disk.ask_of_entry hEntry _, readXml_of_start (Disk.read_of_entry hEntry) (by cbv) (by cbv)⟩

/-- The outline of this course: one part on every level. -/
theorem nestedDisk_isOutline (hRoot : root = ⟨.relative, ["c"]⟩) :
    ∃ top, partIds top "chapter" = ["a"] ∧ IsOutline nestedDisk root knownKinds top top
      ⟨"unknown", "Untitled Course", [⟨"a", "a", [⟨"../chapter/a", "../chapter/a",
        [⟨"../chapter/a", "../chapter/a", [⟨"problem", "unknown", none⟩]⟩]⟩]⟩], some root⟩ := by
  obtain ⟨hCourse, hChapter, hSequential, hVertical⟩ := nestedDisk_locate hRoot
  let top : Xml.Element := ⟨"course", [], [.element "chapter" [("url_name", "a")] []]⟩
  have hEntry : nestedDisk.entry (coursePath root) = .ok (.file _) :=
    Disk.entry_of_locate hCourse rfl
  have hTop : readXml nestedDisk (coursePath root) = .ok top :=
    readXml_of_start (Disk.read_of_entry hEntry) (by cbv) (by cbv)
  have hPart {α β : Type} {level id : String} {make : String → String → List β → α}
      {holds : Xml.Element → List β → Prop} {bs : List β}
      (h : nestedDisk.locate (partPath root level id) = .ok ["c", "chapter", "a.xml"])
      (hHolds : holds nestedElement bs) :
      IsPart nestedDisk root level make holds id (make id id bs) := by
    obtain ⟨hThere, hRead⟩ := nestedDisk_element? h
    exact .present hThere hRead hHolds
  have hChapters : partIds top "chapter" = ["a"] := by decide
  have hSequentials : partIds nestedElement "sequential" = ["../chapter/a"] := by decide
  have hVerticals : partIds nestedElement "vertical" = ["../chapter/a"] := by decide
  refine ⟨top, hChapters, Disk.ask_of_entry hEntry _, hTop, rfl, ?_, rfl⟩
  rw [HasChapters, hChapters]
  refine .cons (hPart hChapter ?_) .nil
  rw [HasSequentials, hSequentials]
  refine .cons (hPart hSequential ?_) .nil
  rw [HasVerticals, hVerticals]
  exact .cons (hPart hVertical collect_nestedElement.symm) .nil

/-- What is reached in this course on every level. -/
theorem nestedDisk_reached (hRoot : root = ⟨.relative, ["c"]⟩) {top : Xml.Element}
    (hChapters : partIds top "chapter" = ["a"]) :
    reached nestedDisk root "chapter" [top] = [nestedElement] ∧
    reached nestedDisk root "sequential" [nestedElement] = [nestedElement] ∧
    reached nestedDisk root "vertical" [nestedElement] = [nestedElement] := by
  obtain ⟨-, hChapter, hSequential, hVertical⟩ := nestedDisk_locate hRoot
  have hReached {level id : String} {e : Xml.Element} (hOnly : partIds e level = [id])
      (h : nestedDisk.locate (partPath root level id) = .ok ["c", "chapter", "a.xml"]) :
      reached nestedDisk root level [e] = [nestedElement] := by
    obtain ⟨hThere, hRead⟩ := nestedDisk_element? h
    simp [reached, partElements, hOnly, element?, hThere, hRead, Except.toOption]
  exact ⟨hReached hChapters hChapter, hReached (by decide) hSequential,
    hReached (by decide) hVertical⟩

end

/-- The report on this course tells one part of every level, and one component, which has failed. -/
theorem nested_course_accounted :
    let root : Path := ⟨.relative, ["c"]⟩
    ∃ report w', ((Converter.standard {}).convertDirectory root ⟨.relative, ["o"]⟩).run
        ⟨nestedDisk, []⟩ = (.ok report, w') ∧
      report.statistics.sequentials = 1 ∧ report.statistics.verticals = 1 ∧
      report.statistics.components = 1 ∧ ("problem", 1) ∈ report.failed := by
  intro root
  obtain ⟨top, hChapters, hOutline⟩ := nestedDisk_isOutline (rfl : root = _)
  let problem : Reference := ⟨"problem", "unknown", none⟩
  have hMissing : nestedDisk.read (componentPath root "problem" "unknown" ".xml") =
      .error ⟨.missing, componentPath root "problem" "unknown" ".xml"⟩ := by
    have hPath : componentPath root "problem" "unknown" ".xml" =
        ⟨.relative, ["c", "problem", "unknown.xml"]⟩ := by decide
    rw [hPath, Disk.read, Disk.entry, Disk.locate_eq_walk _ ⟨by decide, by decide⟩]
    rfl
  have hKind : Text.lower problem.kind = "problem" := by decide
  have hGoesOn : (Source.mk (.standard {}) nestedDisk root).GoesOn problem := by
    rw [goesOn_iff, Stops, hKind]
    rintro ⟨c, _, hRead, _⟩
    rw [hMissing] at hRead
    cases hRead
  have hFails : ((Source.mk (.standard {}) nestedDisk root).componentText problem).isOk = false := by
    have hBroken : IsBroken nestedDisk root problem := by
      rw [IsBroken, hKind]
      exact .inl (.inl ⟨_, hMissing⟩)
    rcases componentText_settles {} nestedDisk root problem with ⟨_, _, hGood, _⟩ | ⟨e, he, _⟩ | ⟨e, he, _⟩
    · exact absurd hBroken hGood
    · rw [he]; rfl
    · rw [he]; rfl
  -- nothing is in the way of the document, and there are no static files
  have hFits : FitsCourse {} ⟨.relative, []⟩ "o" :=
    ⟨⟨by decide, by decide, by decide⟩, by decide, ⟨by decide, by decide⟩, ⟨by decide, by decide⟩⟩
  have hStatic : nestedDisk.locate (Media.staticPath root) = .ok ["c", "static"] := by
    have hPath : Media.staticPath root = ⟨.relative, ["c", "static"]⟩ := by decide
    rw [hPath, Disk.locate_eq_walk _ ⟨by decide, by decide⟩]
    rfl
  obtain ⟨text, tally, told, hRun⟩ := Converter.convertDirectory_run_of_outline
    (w := ⟨nestedDisk, []⟩) {} ⟨.relative, ["o"]⟩ hOutline (List.forall_mem_singleton.mpr hGoesOn)
  have hFree (names : List String) (hNew : nestedDisk.tree.find? ("o" :: names) = none) (e : Entry) :
      nestedDisk.tree.find? ("o" :: names) ≠ some e := by simp [hNew]
  have hTakes : TakesCourse {} ⟨.relative, []⟩ "o" (World.mk nestedDisk told).disk [] :=
    ⟨by rw [Disk.locate_eq_walk _ ⟨by decide, by decide⟩]; rfl, rfl, fun _ => hFree [] rfl _,
      hFree ["course.md"] rfl _, fun _ => hFree ["media"] rfl _⟩
  obtain ⟨path, w', hWritten, -⟩ := Converter.writeCourse_ok hFits hTakes hStatic rfl (by decide)
    text (.ofCourse _ tally)
  have hRun' := hRun.trans hWritten
  obtain ⟨top', full, hTop, hFull, hNumbers⟩ := Converter.report_accounts hRun'
  -- there is only one element that describes the course
  obtain rfl : top = top' := Except.ok.inj (hOutline.starts.symm.trans hTop)
  obtain rfl : top = full := Except.ok.inj (hOutline.described.symm.trans hFull)
  obtain ⟨hFirst, hSecond, hThird⟩ := nestedDisk_reached (rfl : root = _) hChapters
  simp only [hFirst, hSecond, hThird, List.flatMap_singleton, collect_nestedElement] at hNumbers
  obtain ⟨-, hSequentials, hVerticals, hComponents, -, -, -, hKinds⟩ := hNumbers
  refine ⟨_, w', hRun', hSequentials.trans (by decide), hVerticals.trans (by decide),
    hComponents.trans (by decide), (hKinds "problem" 1).mpr ⟨?_, Nat.one_pos⟩⟩
  rw [List.countP_singleton, hFails]
  rfl

end Coursebook
