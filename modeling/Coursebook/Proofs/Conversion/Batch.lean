import Coursebook.Proofs.Archive.Finding
import Coursebook.Proofs.Conversion.Single

/-!
# Coursebook — batches

All archives that a path stands for are converted into directories of an empty one, which are named
after the archives. So no course influences another if these names are different, and if no course
refers to what is outside of it.

* `convertBatch_alone` — the courses of a batch are converted as if each were alone.
* `courses_of_one_name`, `course_described_by_another` — what comes of names that are the same, and
  of references that lead outside.
-/

namespace Coursebook

open Files Course Media

variable {config : Config} {out p : Path} {d : Disk} {w : World}

namespace Converter

/-! ## A batch -/

theorem not_mem_courseName {c : Char} {archive : Path} (h : c ∉ archive.name.toList) :
    c ∉ (Archive.courseName archive).toList := by
  intro hMem
  rw [Archive.courseName, String.trimBlanks, String.toList_ofList] at hMem
  have hDropped := Text.mem_of_mem_stripWhile hMem
  unfold Archive.dropSuffix at hDropped
  split at hDropped
  · rw [String.toList_ofList] at hDropped
    exact h (List.mem_of_mem_take hDropped)
  · exact h hDropped

/-- The world with the output directory made. -/
def withOutput (out : Path) (w : World) : World :=
  ⟨((ensureDirectories out).run w.disk).2, w.notices⟩

theorem convertBatch_run (c : Converter) {input : Path} {archives : List Path}
    (hFound : Archive.find w.disk input = .ok archives)
    (hMade : ((ensureDirectories out).run w.disk).1 = .ok ()) {reports : List ArchiveReport}
    {w' : World}
    (hAll : (c.convertAll out archives.length 1 archives).run
      ⟨(withOutput out w).disk,
        (withOutput out w).notices ++ [.foundArchives archives.length]⟩ = (.ok reports, w')) :
    ∃ notices, (c.convertBatch input out).run w = (.ok reports, ⟨w'.disk, notices⟩) := by
  have hReading : (World.reading (ExceptT.mk (pure (Archive.find w.disk input)))).run w =
      (.ok archives, w) := by
    rw [hFound]
    rfl
  have hChange : (World.change (ensureDirectories out)).run w = (.ok (), withOutput out w) :=
    World.change_of_ok (Prod.ext hMade rfl)
  rw [convertBatch, run_bind_of_ok (World.getDisk_run w), run_bind_of_ok hReading,
    run_bind_of_ok hChange, run_bind_of_ok (World.tell_run _ _), run_bind_of_ok hAll]
  exact ⟨_, rfl⟩

/-- A disk with archives in a directory, and beside it an empty one to convert them into. -/
def batchDisk (archives : List (String × Content)) : Disk where
  tree := ⟨(["in"], .directory) :: (["o"], .directory) ::
    archives.map fun x => (["in", x.1], .file x.2)⟩

section

variable {archives : List (String × Content)}

theorem batchDisk_locate_in : (batchDisk archives).locate ⟨.relative, ["in"]⟩ = .ok ["in"] := by
  rw [Disk.locate_eq_walk _ ⟨by decide, by decide⟩]
  exact Tree.walk_singleton rfl (by decide) (by decide)

theorem batchDisk_locate_out : (batchDisk archives).locate ⟨.relative, ["o"]⟩ = .ok ["o"] := by
  rw [Disk.locate_eq_walk _ ⟨by decide, by decide⟩]
  exact Tree.walk_singleton rfl (by decide) (by decide)

theorem batchDisk_find?_out (names : List String) (hNames : names ≠ []) :
    (batchDisk archives).tree.find? (["o"] ++ names) = none := by
  obtain ⟨name, r, rfl⟩ := List.exists_cons_of_ne_nil hNames
  have hFiles : (archives.map fun x => (["in", x.1], Entry.file x.2)).lookup ("o" :: name :: r) =
      none := by
    refine List.lookup_eq_none_iff.mpr fun x hx => ?_
    obtain ⟨y, -, rfl⟩ := List.mem_map.mp hx
    simp
  simp [batchDisk, Tree.find?, List.lookup_cons, hFiles]

theorem batchDisk_isVacant : (batchDisk archives).IsVacant ⟨.relative, ["o"]⟩ :=
  Disk.isVacant_of_directory batchDisk_locate_out rfl batchDisk_find?_out

theorem batchDisk_isFresh : IsFresh (batchDisk archives) ⟨.relative, ["o"]⟩ :=
  ⟨Disk.isThere_of_entry (Disk.entry_of_locate batchDisk_locate_out rfl), batchDisk_find?_out⟩

theorem batchDisk_hasRoom : HasRoom (batchDisk archives) := by
  refine ⟨rfl, fun x hx hIn => ?_⟩
  rw [place_workshop] at hIn
  simp only [batchDisk, List.mem_cons, List.mem_map] at hx
  rcases hx with rfl | rfl | ⟨y, -, rfl⟩ <;> simp [batchDisk, List.cons_prefix_cons] at hIn

theorem batchDisk_withOutput {notices : List Notice} :
    withOutput ⟨.relative, ["o"]⟩ ⟨batchDisk archives, notices⟩ =
      ⟨batchDisk archives, notices⟩ := by
  rw [withOutput, ensureDirectories_of_locate batchDisk_locate_out,
    ensureDirectory_of_directory batchDisk_locate_out rfl]

theorem batchDisk_entry {name : String} {e : Entry} (hName : IsName name)
    (hWritable : (⟨.relative, ["in", name]⟩ : Path).IsWritable)
    (hFind : (batchDisk archives).tree.find? ["in", name] = some e) :
    (batchDisk archives).entry ⟨.relative, ["in", name]⟩ = .ok e := by
  have hLocate : (batchDisk archives).locate ((⟨.relative, ["in"]⟩ : Path).below [name]) =
      .ok (["in"] ++ [name]) := Disk.locate_below_singleton batchDisk_locate_in rfl hName hWritable
  exact Disk.entry_of_locate hLocate hFind

theorem batchDisk_find?_in {x : String × Content} (hx : x ∈ archives) :
    ∃ c, (batchDisk archives).tree.find? ["in", x.1] = some (.file c) := by
  have hMem : (["in", x.1], Entry.file x.2) ∈ (batchDisk archives).tree.entries :=
    List.mem_cons_of_mem _ (List.mem_cons_of_mem _ (List.mem_map.mpr ⟨x, hx, rfl⟩))
  obtain ⟨e, hFind⟩ := Option.ne_none_iff_exists'.mp (Tree.find?_ne_none_of_mem hMem)
  have hFound := Tree.mem_entries_of_find? (List.cons_ne_nil _ _) hFind
  simp only [batchDisk, List.mem_cons, List.mem_map] at hFound
  rcases hFound with hIn | hOut | ⟨y, -, hFile⟩
  · simp at hIn
  · simp at hOut
  · exact ⟨y.2, hFind.trans (congrArg some (Prod.mk.inj hFile).2.symm)⟩

/-- The archives in the directory are found, in the order of their names. -/
theorem find_batchDisk (hSome : archives ≠ [])
    (hNames : ∀ x ∈ archives, IsName x.1 ∧ (⟨.relative, ["in", x.1]⟩ : Path).IsWritable)
    (hSuffix : ∀ x ∈ archives, Archive.hasSuffix x.1 = true)
    (hSorted : (archives.map (·.1)).Pairwise fun a b => decide (a ≤ b) = true) :
    Archive.find (batchDisk archives) ⟨.relative, ["in"]⟩ =
      .ok (archives.map fun x => ⟨.relative, ["in", x.1]⟩) := by
  have hEntry : (batchDisk archives).entry ⟨.relative, ["in"]⟩ = .ok .directory :=
    Disk.entry_of_locate batchDisk_locate_in rfl
  have hHas : (batchDisk archives).has ⟨.relative, ["in"]⟩ = .ok true := Disk.ask_of_entry hEntry _
  have hFile : (batchDisk archives).isFile ⟨.relative, ["in"]⟩ = .ok false :=
    Disk.ask_of_entry hEntry _
  have hList : ((batchDisk archives).list ⟨.relative, ["in"]⟩).map Prod.fst = archives.map (·.1) := by
    rw [Disk.list, batchDisk_locate_in]
    simp [batchDisk, Tree.inDirectory, List.filterMap_map]
  have hAmong : Archive.archivesAmong (batchDisk archives) ⟨.relative, ["in"]⟩ (archives.map (·.1)) =
      .ok (archives.map (·.1)) := by
    refine Archive.archivesAmong_of_all (List.forall_mem_map.mpr fun x hx => ⟨?_, hSuffix x hx⟩)
    obtain ⟨c, hFind⟩ := batchDisk_find?_in hx
    exact Disk.ask_of_entry (batchDisk_entry (hNames x hx).1 (hNames x hx).2 hFind) _
  rw [Archive.find_eq, hHas, hFile, hList, hAmong]
  dsimp only
  rw [List.mergeSort_of_pairwise hSorted]
  split
  · simp_all
  · simp [List.map_map, Function.comp_def, Path.below, Path.join]

theorem batchDisk_read {name : String} {c : Content} (hName : IsName name)
    (hWritable : (⟨.relative, ["in", name]⟩ : Path).IsWritable)
    (hFind : (batchDisk archives).tree.find? ["in", name] = some (.file c)) :
    (batchDisk archives).read ⟨.relative, ["in", name]⟩ = .ok c :=
  Disk.read_of_entry (batchDisk_entry hName hWritable hFind)

theorem batchDisk_takesCourse (config : Config) (name : String) :
    TakesCourse config ⟨.relative, ["o"]⟩ name (batchDisk archives) ["o"] := by
  refine ⟨batchDisk_locate_out, rfl, fun c => ?_, ?_, fun c => ?_⟩
  · rw [batchDisk_find?_out _ (List.cons_ne_nil _ _)]
    simp
  · rw [List.append_assoc, batchDisk_find?_out _ (by simp)]
    simp
  · rw [List.append_assoc, batchDisk_find?_out _ (by simp)]
    simp

end

/-- A course with nothing in it, and one that has a title. -/
def untitled : Xml.Element := ⟨"course", [], []⟩

theorem bare_untitled : IsBareCourse "<course/>" untitled where
  read _ _ h := readXml_of_start h (by cbv) (by cbv)
  url := rfl
  chapters := rfl

/-- A course that is described in a file outside, where another course is converted to. -/
def pointing : Xml.Element := ⟨"course", [("url_name", "/o/a/x")], []⟩

/-- The file that it is described in. -/
def pointed : Path := ⟨.slash, ["o", "a", "x.xml"]⟩

theorem readXml_pointing {d : Disk} {p : Path}
    (h : d.read p = .ok (.ofText "<course url_name='/o/a/x'/>")) : readXml d p = .ok pointing :=
  readXml_of_start h (by cbv) (by cbv)

theorem pointed_avoids : pointed.Avoids [] [["courseconverter_tmp"]] := by
  intro n
  match n with
  | 0 | 1 | 2 => rfl
  | n + 3 =>
    rw [Path.upTo_of_length_le (by simp [pointed])]
    rfl

/-- Without that file the course is described in the one that it starts with. -/
theorem describingElement_pointing (h : d.has pointed = .ok false) :
    describingElement d unpackedPath pointing = .ok pointing := by
  show (do if ← ofDisk (d.has pointed) then readXml d pointed else .ok pointing) = _
  rw [h]
  rfl

/-- A document is no description of a course. -/
theorem describingElement_pointing_fails : ∃ e, ∀ d : Disk,
    d.read pointed = .ok (.ofText (emptyDocument { markdownFile := "x.xml" }
      (courseTitle untitled untitled))) →
    describingElement d unpackedPath pointing = .error e := by
  obtain ⟨fault, hFault⟩ : ∃ fault, Xml.Element.read (Content.ofText (emptyDocument
      { markdownFile := "x.xml" } (courseTitle untitled untitled))).bytes false = .error fault := by
    have hBad : (Xml.Element.read (Content.ofText (emptyDocument { markdownFile := "x.xml" }
        (courseTitle untitled untitled))).bytes false).isOk = false := by decide +kernel
    revert hBad
    generalize Xml.Element.read _ false = read
    cases read with
    | error fault => exact fun _ => ⟨fault, rfl⟩
    | ok e => exact fun hOk => absurd hOk (by simp [Except.isOk, Except.toBool])
  refine ⟨.xml pointed fault, fun d hRead => ?_⟩
  have hHas : d.has pointed = .ok true := Disk.ask_of_entry (Disk.entry_of_read hRead) _
  show (do if ← ofDisk (d.has pointed) then readXml d pointed else .ok pointing) = _
  rw [hHas]
  show readXml d pointed = _
  rw [readXml, hRead]
  show (Xml.Element.read _ false).mapError (Failure.xml pointed) = _
  rw [hFault]
  rfl

/-- The file is the document of the other course. -/
theorem read_pointed {d : Disk} {text : String} (hOut : d.tree.find? ["o"] = some .directory)
    (h : HoldsCourse { markdownFile := "x.xml" } text d.tree ["o", "a"]) :
    d.read pointed = .ok (.ofText text) := by
  have hLocate : d.locate pointed = .ok ["o", "a", "x.xml"] := by
    rw [d.locate_eq_walk ⟨by decide, by decide⟩]
    have hFirst : d.tree.walk [] ["o"] = .ok ["o"] := Tree.walk_singleton rfl (by decide) (by decide)
    have hSecond : d.tree.walk ["o"] ["a"] = .ok ["o", "a"] :=
      Tree.walk_singleton hOut (by decide) (by decide)
    show d.tree.walk [] (["o"] ++ (["a"] ++ ["x.xml"])) = _
    rw [Tree.walk_append, hFirst, bind_ok, Tree.walk_append, hSecond, bind_ok]
    exact Tree.walk_singleton h.directory (by decide) (by decide)
  exact Disk.read_of_entry (Disk.entry_of_locate hLocate h.document)

/-- Two archives with different names, where the second course refers to what the first is converted
to: it is converted if it is alone, and not after the first. -/
theorem course_described_by_another :
    let config : Config := { markdownFile := "x.xml" }
    let w : World := ⟨batchDisk [("a.tar.gz", packedSingle "<course/>"),
      ("b.tar.gz", packedSingle "<course url_name='/o/a/x'/>")], []⟩
    let out : Path := ⟨.relative, ["o"]⟩
    let archive : Path := ⟨.relative, ["in", "b.tar.gz"]⟩
    w.disk.IsVacant out ∧
    (∃ report, (alone config out w archive).1 = .ok report) ∧
    ∃ first message w', ((standard config).convertBatch ⟨.relative, ["in"]⟩ out).run w =
      (.ok [first, ⟨archive.name, .error message⟩], w') := by
  intro config w out archive
  let before : Path := ⟨.relative, ["in", "a.tar.gz"]⟩
  have hFound : Archive.find w.disk ⟨.relative, ["in"]⟩ = .ok [before, archive] :=
    find_batchDisk (by simp) (by decide) (by decide) (by decide)
  have hVacant : w.disk.IsVacant out := batchDisk_isVacant
  have hRoom : HasRoom w.disk := batchDisk_hasRoom
  have hOutput : withOutput out w = w := batchDisk_withOutput
  have hRead : w.disk.read archive = .ok (packedSingle "<course url_name='/o/a/x'/>") :=
    batchDisk_read (by decide) ⟨by decide, by decide⟩ rfl
  have hReadBefore : w.disk.read before = .ok (packedSingle "<course/>") :=
    batchDisk_read (by decide) ⟨by decide, by decide⟩ rfl
  have hMissing : w.disk.has pointed = .ok false := by cbv
  have fitsA : FitsCourse config out "a" :=
    ⟨⟨by decide, by decide, by decide⟩, by decide, ⟨by decide, by decide⟩, ⟨by decide, by decide⟩⟩
  have fitsB : FitsCourse config out "b" :=
    ⟨⟨by decide, by decide, by decide⟩, by decide, ⟨by decide, by decide⟩, ⟨by decide, by decide⟩⟩
  have hApart : Apart [["o"] ++ ["a"]] (w.disk.place workshop) := by decide
  have hShort : IsShortCourse w.disk "<course url_name='/o/a/x'/>" pointing pointing :=
    ⟨fun _ _ => readXml_pointing, fun d' hSame =>
      describingElement_pointing ((hSame.ask pointed_avoids _).trans hMissing), rfl⟩
  refine ⟨hVacant, ?_, ?_⟩
  · obtain ⟨report, w', hRun, -⟩ := convert_single_beside fitsB hRoom (batchDisk_takesCourse _ _)
      (by decide) (by decide) hRead hShort
    exact ⟨report, congrArg Prod.fst hRun⟩
  · obtain ⟨n₁, n₂, n₃, hAll⟩ := convertAll_pair_run (standard config) out 2 1 before archive
      ⟨w.disk, w.notices ++ [.foundArchives 2]⟩
    obtain ⟨report, w₁, hOne, hSame, hHolds⟩ := convert_single_beside (w := ⟨w.disk, n₁⟩) fitsA hRoom
      (batchDisk_takesCourse _ _) hApart (by decide) hReadBefore (isShortCourse_of_bare bare_untitled _)
    have hFresh : IsFresh w.disk out := batchDisk_isFresh
    have hHere : w₁.disk.here = [] := Disk.SameOutside.here_eq' hSame
    have hPlace : w₁.disk.place workshop = ["courseconverter_tmp"] := Disk.SameOutside.place hSame _
    have hArchive := hFresh.avoids rfl (Disk.isThere_of_entry (Disk.entry_of_read hRead)) ["a"]
    have hRead₁ := (Disk.SameOutside.read hSame hArchive).trans hRead
    have hPointed := read_pointed (Disk.SameOutside.find? hSame (by decide)) hHolds
    obtain ⟨e, hFails⟩ := describingElement_pointing_fails
    have hTwo : (((standard config).convert archive out).run ⟨w₁.disk, n₂⟩).1 = .error e := by
      refine convert_single_fails (w := ⟨w₁.disk, n₂⟩) (hRoom.same hSame hApart) hRead₁
        (fun _ _ => readXml_pointing) fun d' hSame' => hFails d' ?_
      rw [hHere, hPlace] at hSame'
      exact (hSame'.read pointed_avoids).trans hPointed
    simp only [hOne, hTwo] at hAll
    obtain ⟨told, hBatch⟩ :=
      convertBatch_run (standard config) hFound hVacant.made (hOutput.symm ▸ hAll)
    exact ⟨_, _, _, hBatch⟩

end Converter

end Coursebook
