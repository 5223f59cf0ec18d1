import Coursebook.Proofs.Archive.Packing
import Coursebook.Proofs.Conversion.Beside

/-!
# Coursebook — courses that are converted

What a conversion can have changed holds whether or not it succeeds; here is when it does. A course
without chapters and static files is converted wherever nothing is in the way of its document and of
its media directory (`TakesCourse`), and these are what its output directory then holds
(`HoldsCourse`), so that it can be converted there again. Packed into an archive, such a course needs
no more than the one file that it starts with.

* `writeMarkdown_ok` — writing the document.
* `convertDirectory_ok` — a course directory.
* `convert_single` — an archive with a course of one file.
* `convert_beside` — what the conversion of any archive leaves alone.
-/

namespace Coursebook

open Files Course Media

variable {config : Config} {out p : Path} {d d' : Disk} {w : World} {l : Location}
  {name text : String}

/-! ## Writing a course -/

/-- A directory is made in one that has been reached, unless a file is in its place. -/
theorem ensureDirectories_below_ok (hLocate : d.locate p = .ok l)
    (hDir : d.tree.find? l = some .directory) (hName : IsName name)
    (hWritable : (p.below [name]).IsWritable)
    (hFree : ∀ c, d.tree.find? (l ++ [name]) ≠ some (.file c)) :
    ∃ d', (ensureDirectories (p.below [name])).run d = (.ok (), d') ∧
      d.GrowsTo (· = l ++ [name]) (fun _ _ => False) d' ∧
      d'.tree.find? (l ++ [name]) = some .directory := by
  have hBelow := Disk.locate_below_singleton hLocate hDir hName hWritable
  obtain ⟨d', hRun, -, hMade⟩ := ensureDirectory_ok hBelow hFree
  have hGrows := ensureDirectory_grows d (p.below [name]) fun _ _ => False
  rw [hRun, ← Disk.locate_eq_place hBelow] at hGrows
  exact ⟨d', (ensureDirectories_of_locate hBelow).trans hRun, hGrows, hMade⟩

/-- A directory of some name that a course can be written into: neither it nor what belongs into it
has anything of another kind in its place. -/
structure TakesCourse (config : Config) (out : Path) (name : String) (d : Disk) (l : Location) :
    Prop where
  reached : d.locate out = .ok l
  directory : d.tree.find? l = some .directory
  free : ∀ c, d.tree.find? (l ++ [name]) ≠ some (.file c)
  document : d.tree.find? (l ++ [name] ++ [config.markdownFile]) ≠ some .directory
  media : ∀ c, d.tree.find? (l ++ [name] ++ [config.mediaDir]) ≠ some (.file c)

/-- Names that the system takes for the directory of a course and for what belongs into it. -/
structure FitsCourse (config : Config) (out : Path) (name : String) : Prop where
  plain : PlainNames config
  isName : IsName name
  document : ((out.below [name]).below [config.markdownFile]).IsWritable
  media : ((out.below [name]).below [config.mediaDir]).IsWritable

theorem TakesCourse.locate (hFits : FitsCourse config out name)
    (h : TakesCourse config out name d l) : d.locate (out.below [name]) = .ok (l ++ [name]) :=
  Disk.locate_below_singleton h.reached h.directory hFits.isName hFits.document.of_below

/-- A directory with the document and the media directory of a course in it. -/
structure HoldsCourse (config : Config) (text : String) (t : Tree) (home : Location) : Prop where
  directory : t.find? home = some .directory
  document : t.find? (home ++ [config.markdownFile]) = some (.file (.ofText text))
  media : t.find? (home ++ [config.mediaDir]) = some .directory

section

variable {here : Location} {cones : List Location}

theorem TakesCourse.same (h : TakesCourse config out name d l) (hSame : d.SameOutside here cones d')
    (hOut : out.Avoids here cones) (hApart : Apart cones (l ++ [name])) :
    TakesCourse config out name d' l := by
  have hHome : covered cones (l ++ [name]) = false := by simpa using hApart.not_covered []
  have hTop : covered cones l = false := by
    rw [Disk.locate_eq_place h.reached]
    exact Disk.SameOutside.not_covered hSame.here_eq hOut
  refine ⟨(hSame.locate hOut).trans h.reached, (hSame.find? hTop).trans h.directory, ?_, ?_, ?_⟩
  · rw [hSame.find? hHome]
    exact h.free
  · rw [hSame.find? (hApart.not_covered _)]
    exact h.document
  · rw [hSame.find? (hApart.not_covered _)]
    exact h.media

theorem HoldsCourse.same {home : Location} (h : HoldsCourse config text d.tree home)
    (hSame : d.SameOutside here cones d') (hApart : Apart cones home) :
    HoldsCourse config text d'.tree home := by
  have hHome : covered cones home = false := by simpa using hApart.not_covered []
  exact ⟨(hSame.find? hHome).trans h.directory, (hSame.find? (hApart.not_covered _)).trans h.document,
    (hSame.find? (hApart.not_covered _)).trans h.media⟩

end

/-- The document is written into a directory that has been made. -/
theorem writeMarkdown_run (hMade : (ensureDirectories p).run w.disk = (.ok (), d))
    (hReached : d.locate p = .ok l) (hHome : d.tree.find? l = some .directory)
    (hName : IsName config.markdownFile) (hWritable : (p.below [config.markdownFile]).IsWritable)
    (hFree : d.tree.find? (l ++ [config.markdownFile]) ≠ some .directory) (text : String) :
    ∃ path notices, (writeMarkdown config p text).run w =
      (.ok path, ⟨d.put (l ++ [config.markdownFile]) (.file (.ofText text)), notices⟩) := by
  have hWrite := write_ok hReached hHome hName hWritable hFree (.ofText text)
  rw [← child_of_isName _ hName] at hWrite
  refine ⟨p.child config.markdownFile,
    w.notices ++ [.wroteMarkdown (p.child config.markdownFile)], ?_⟩
  rw [writeMarkdown, run_bind_of_ok (World.change_of_ok hMade)]
  dsimp only
  rw [run_bind_of_ok (World.change_of_ok (w := ⟨d, w.notices⟩) hWrite)]
  rfl

/-- The document is written. -/
theorem writeMarkdown_ok (hFits : FitsCourse config out name)
    (h : TakesCourse config out name w.disk l) (text : String) :
    ∃ path w', (writeMarkdown config (out.below [name]) text).run w = (.ok path, w') ∧
      w.disk.GrowsTo (· = l ++ [name])
        (fun k c => k = l ++ [name] ++ [config.markdownFile] ∧ c = .ofText text) w'.disk ∧
      w'.disk.tree.find? (l ++ [name]) = some .directory ∧
      w'.disk.tree.find? (l ++ [name] ++ [config.markdownFile]) = some (.file (.ofText text)) := by
  obtain ⟨d₁, hMade, hGrows, hHome⟩ := ensureDirectories_below_ok h.reached h.directory
    hFits.isName hFits.document.of_below h.free
  have hReached := hGrows.locate (h.locate hFits)
  have hFree : d₁.tree.find? (l ++ [name] ++ [config.markdownFile]) ≠ some .directory := by
    rw [hGrows.find_eq (by simp) fun _ => id]
    exact h.document
  have hWritten : d₁.GrowsTo (· = l ++ [name])
      (fun k c => k = l ++ [name] ++ [config.markdownFile] ∧ c = .ofText text)
      (d₁.put (l ++ [name] ++ [config.markdownFile]) (.file (.ofText text))) :=
    Disk.grows_put_file ⟨rfl, rfl⟩ hFree
  obtain ⟨path, notices, hRun⟩ := writeMarkdown_run hMade hReached hHome hFits.plain.document
    hFits.document hFree text
  exact ⟨path, _, hRun, (hGrows.mono (fun _ => id) fun _ _ hNo => hNo.elim).trans hWritten,
    hWritten.directory hHome, d₁.find?_put_self (by simp) _⟩

/-- Where there are no static files, the media directory is made and stays as it is. -/
theorem copyAssets_ok (hFits : FitsCourse config out name) {root : Path}
    (hReached : w.disk.locate (out.below [name]) = .ok (l ++ [name]))
    (hHome : w.disk.tree.find? (l ++ [name]) = some .directory)
    (hFree : ∀ c, w.disk.tree.find? (l ++ [name] ++ [config.mediaDir]) ≠ some (.file c))
    {static : Location} (hLocate : w.disk.locate (staticPath root) = .ok static)
    (hNone : w.disk.tree.find? static = none) (hElse : static ≠ l ++ [name] ++ [config.mediaDir]) :
    ∃ w', (copyAssets config root (out.below [name])).run w = (.ok [], w') ∧
      w.disk.GrowsTo (· = l ++ [name] ++ [config.mediaDir]) (fun _ _ => False) w'.disk ∧
      w'.disk.tree.find? (l ++ [name] ++ [config.mediaDir]) = some .directory := by
  obtain ⟨d₁, hMade, hGrows, hMedia⟩ := ensureDirectories_below_ok hReached hHome hFits.plain.media
    hFits.media hFree
  rw [← child_of_isName _ hFits.plain.media] at hMade
  have hStatic : d₁.has (staticPath root) = .ok false :=
    Disk.ask_of_none (hGrows.locate hLocate) ((hGrows.find_eq hElse fun _ => id).trans hNone) _
  refine ⟨⟨d₁, w.notices ++ [.noStaticFiles]⟩, ?_, hGrows, hMedia⟩
  rw [copyAssets_run hMade, hStatic]

/-! ## A course without chapters -/

/-- The document of a course without chapters. -/
def emptyDocument (config : Config) (title : String) : String :=
  joinLines (headerLines config title ++ [] ++ footerLines)

namespace Converter

/-- What is left to do for a course without chapters when it has been read. -/
theorem convertDirectory_run_of_no_chapter (config : Config) (out : Path) {root : Path}
    {top full : Xml.Element}
    (hHas : w.disk.has (coursePath root) = .ok true)
    (hTop : readXml w.disk (coursePath root) = .ok top)
    (hFull : describingElement w.disk root top = .ok full)
    (hChapters : partIds full "chapter" = []) :
    ∃ told, ((standard config).convertDirectory root out).run w =
      (writeMarkdown config out (emptyDocument config (courseTitle top full)) >>= fun path =>
        copyAssets config root out >>= fun copies =>
          pure (Report.ofCourse ⟨courseId top full, courseTitle top full, [], some root⟩ {} path
            copies.length)).run ⟨w.disk, told⟩ := by
  have hRoot : (World.reading (Reading.ofLoad (resolveRoot w.disk root))).run w = (.ok root, w) := by
    rw [resolveRoot, hHas]
    rfl
  have hOutline (notices : List Notice) :
      (World.reading (readOutline w.disk root (standard config).registry.kinds)).run
          ⟨w.disk, notices⟩ =
        (.ok ⟨courseId top full, courseTitle top full, [], some root⟩,
          ⟨w.disk, notices ++ [.readCourse (courseTitle top full) 0]⟩) := by
    rw [World.reading_run, readOutline_of_no_chapter hHas hTop hFull hChapters]
  have hDocument (notices : List Notice) :
      ((standard config).makeDocument ⟨courseId top full, courseTitle top full, [], some root⟩
          root).run ⟨w.disk, notices⟩ =
        (.ok (emptyDocument config (courseTitle top full), {}), ⟨w.disk, notices⟩) := rfl
  rw [convertDirectory, run_bind_of_ok (World.getDisk_run w), run_bind_of_ok hRoot,
    run_bind_of_ok (World.tell_run _ _), run_bind_of_ok (World.getDisk_run _)]
  dsimp only
  rw [run_bind_of_ok (hOutline _), run_bind_of_ok (World.tell_run _ _), run_bind_of_ok (hDocument _)]
  dsimp only
  rw [run_bind_of_ok (World.tell_run _ _)]
  exact ⟨_, rfl⟩

/-- A course without static files is written, whatever its document is. -/
theorem writeCourse_ok (hFits : FitsCourse config out name)
    (h : TakesCourse config out name w.disk l) {root : Path} {static : Location}
    (hLocate : w.disk.locate (staticPath root) = .ok static)
    (hStatic : w.disk.tree.find? static = none) (hElse : ¬ l ++ [name] <+: static) (text : String)
    (report : Path → Nat → Report) :
    ∃ path w', (writeMarkdown config (out.below [name]) text >>= fun path =>
        copyAssets config root (out.below [name]) >>= fun copies =>
          pure (report path copies.length)).run w = (.ok (report path 0), w') ∧
      w'.disk.here = w.disk.here ∧ HoldsCourse config text w'.disk.tree (l ++ [name]) := by
  obtain ⟨path, w₁, hWritten, hGrows, hHome, hText⟩ := writeMarkdown_ok hFits h text
  -- the media directory comes beside the document
  have hOther : config.mediaDir ≠ config.markdownFile := hFits.plain.different.symm
  have hReached := hGrows.locate (h.locate hFits)
  have hFree : ∀ c, w₁.disk.tree.find? (l ++ [name] ++ [config.mediaDir]) ≠ some (.file c) := by
    rw [hGrows.find_eq (by simp) (by simp [hOther])]
    exact h.media
  have hMissing : w₁.disk.tree.find? static = none := by
    rw [hGrows.find_eq (fun hSame => hElse (hSame ▸ List.prefix_refl _)) ?_]
    · exact hStatic
    · rintro c ⟨rfl, -⟩
      exact hElse (List.prefix_append _ _)
  obtain ⟨w₂, hCopied, hGrows₂, hMedia⟩ := copyAssets_ok hFits hReached hHome hFree
    (hGrows.locate hLocate) hMissing fun hSame => hElse (hSame ▸ List.prefix_append _ _)
  refine ⟨path, w₂, (run_bind_of_ok hWritten).trans (run_bind_of_ok hCopied),
    hGrows₂.here.trans hGrows.here, hGrows₂.directory hHome, ?_, hMedia⟩
  rw [hGrows₂.find_eq (by simp [hOther.symm]) fun _ => id]
  exact hText

/-- A course without chapters and static files is converted. -/
theorem convertDirectory_ok (hFits : FitsCourse config out name)
    (h : TakesCourse config out name w.disk l) {root : Path} {top full : Xml.Element}
    (hHas : w.disk.has (coursePath root) = .ok true)
    (hTop : readXml w.disk (coursePath root) = .ok top)
    (hFull : describingElement w.disk root top = .ok full)
    (hChapters : partIds full "chapter" = [])
    {static : Location} (hLocate : w.disk.locate (staticPath root) = .ok static)
    (hStatic : w.disk.tree.find? static = none) (hElse : ¬ l ++ [name] <+: static) :
    ∃ report w', ((standard config).convertDirectory root (out.below [name])).run w =
        (.ok report, w') ∧ w'.disk.here = w.disk.here ∧
      HoldsCourse config (emptyDocument config (courseTitle top full)) w'.disk.tree
        (l ++ [name]) := by
  obtain ⟨told, hRun⟩ := convertDirectory_run_of_no_chapter config (out.below [name]) hHas hTop
    hFull hChapters
  have hTakes : TakesCourse config out name (World.mk w.disk told).disk l := h
  obtain ⟨path, w', hWritten, hHere, hHolds⟩ := writeCourse_ok hFits hTakes hLocate hStatic hElse
    (emptyDocument config (courseTitle top full)) fun path media =>
      .ofCourse ⟨courseId top full, courseTitle top full, [], some root⟩ {} path media
  exact ⟨_, w', hRun.trans hWritten, hHere, hHolds⟩

end Converter

/-! ## A course of one file -/

/-- The text of a course that is described in full in it, and has no chapters. -/
structure IsBareCourse (text : String) (element : Xml.Element) : Prop where
  read : ∀ d p, d.read p = .ok (.ofText text) → readXml d p = .ok element
  url : element.filled? "url_name" = none
  chapters : partIds element "chapter" = []

theorem describingElement_of_no_url {root : Path} {element : Xml.Element}
    (h : element.filled? "url_name" = none) : describingElement d root element = .ok element := by
  rw [describingElement, h]

/-- Such a course refers to nothing. -/
theorem IsBareCourse.confined {element : Xml.Element} (h : IsBareCourse text element) {root : Path}
    (hRead : d.read (coursePath root) = .ok (.ofText text)) (kinds : List String) :
    CourseConfined d root kinds := by
  have hTop := h.read _ _ hRead
  constructor
  · intro top hRead id hId
    rw [hTop] at hRead
    cases hRead
    rw [h.url] at hId
    cases hId
  · intro top full hRead hFull id hId
    rw [hTop] at hRead
    cases hRead
    rw [describingElement_of_no_url h.url] at hFull
    cases hFull
    rw [h.chapters] at hId
    cases hId

theorem course_xml_isName : IsName "course.xml" := by decide

/-- A course with nothing but the file that it starts with. -/
def Archive.Bundle.single (text : String) : Archive.Bundle where
  nodes := [(["course.xml"], .file text.toUTF8.toList)]
  nonempty := List.cons_ne_nil _ _
  path := by simp [course_xml_isName]
  unique := List.nodup_singleton _
  parent := by simp

namespace Converter

/-- The archive of that course. -/
def packedSingle (text : String) : Content := .archive ((Archive.Bundle.single text).members "t")

variable {archive : Path}

theorem HasRoom.find?_eq_none (h : HasRoom d) (names : List String) :
    d.tree.find? (d.place workshop ++ names) = none := by
  by_contra hSome
  obtain ⟨e, he⟩ := Option.ne_none_iff_exists'.mp hSome
  exact h.free _ (Tree.mem_entries_of_find? (by simp [place_workshop]) he) (List.prefix_append _ _)

/-- What is there is not in the workshop. -/
theorem HasRoom.avoids (h : HasRoom d) (hThere : d.IsThere p) :
    p.Avoids d.here [d.place workshop] := by
  intro n
  rw [← Disk.SameOutside.place_eq rfl, not_covered_iff]
  rintro k hk ⟨names, hIn⟩
  rw [List.mem_singleton.mp hk] at hIn
  exact hThere n (hIn ▸ h.find?_eq_none names)

theorem HasRoom.opened_grows (h : HasRoom w.disk) (archive : Path) :
    w.disk.GrowsTo (· = w.disk.place workshop) (fun _ _ => False) (opened archive w).disk := by
  rw [opened, h.openWorkshop_eq]
  exact Disk.grows_put_directory rfl (by simpa using h.find?_eq_none [])

/-- Nothing stands yet where an archive is unpacked. -/
theorem HasRoom.opened_isVacant (h : HasRoom w.disk) (archive : Path) :
    (opened archive w).disk.IsVacant unpackedPath := by
  have hGrows := h.opened_grows archive
  have hDir : (opened archive w).disk.tree.find? (w.disk.place workshop) = some .directory := by
    rw [opened, h.openWorkshop_eq]
    exact Disk.find?_put_self _ (by simp [place_workshop]) _
  have hNone (names : List String) :
      (opened archive w).disk.tree.find? (w.disk.place workshop ++ "extracted" :: names) = none := by
    rw [hGrows.find_eq (by simp) fun _ => id]
    exact h.find?_eq_none _
  obtain ⟨d₁, hMade, -⟩ := ensureDirectories_below_ok (hGrows.locate h.locate) hDir
    (show IsName "extracted" by decide) ⟨by decide, by decide⟩ (by simp [hNone])
  rw [← unpackedPath_eq] at hMade
  refine Disk.isVacant_of_made (by decide) (congrArg Prod.fst hMade) fun names _ => ?_
  rw [hGrows.place, place_unpackedPath, List.append_assoc]
  exact hNone names

/-- What the archive of a course of one file is unpacked to; this is not seen outside the workshop. -/
theorem HasRoom.unpack_single (h : HasRoom w.disk)
    (hRead : w.disk.read archive = .ok (packedSingle text)) :
    ∃ w₁, (Archive.unpack archive unpackedPath).run (opened archive w) = (.ok (), w₁) ∧
      w.disk.SameOutside w.disk.here [w.disk.place workshop] w₁.disk ∧
      w₁.disk.read (coursePath unpackedPath) = .ok (.ofText text) ∧
      w₁.disk.locate (staticPath unpackedPath) =
        .ok (w.disk.place workshop ++ ["extracted", "static"]) ∧
      w₁.disk.tree.find? (w.disk.place workshop ++ ["extracted", "static"]) = none := by
  have hLoad : Archive.load (opened archive w).disk archive =
      .ok ((Archive.Bundle.single text).members "t") := by
    rw [Archive.load, (h.opened_grows archive).read hRead]
    rfl
  have hShort : ∀ x ∈ (Archive.Bundle.single text).nodes,
      isLongPath (toString (unpackedPath.below x.1)) = false := by
    simp only [Archive.Bundle.single, List.mem_singleton, forall_eq]
    decide
  have hTop : IsName "t" := by decide
  obtain ⟨w₁, hRun, hUnpacking, hAll⟩ := Archive.unpack_unpacking hTop (.inl (.refl _)) hLoad
    (h.opened_isVacant archive) hShort
  rw [(h.opened_grows archive).place, place_unpackedPath] at hUnpacking hAll
  have hWritable : (unpackedPath.below ["static"]).IsWritable := ⟨by decide, by decide⟩
  refine ⟨w₁, hRun, ?_, ?_, ?_, ?_⟩
  · have hEdits := h.openWorkshop_edits.trans (h.unpack_edits archive)
    rw [hRun] at hEdits
    refine hEdits.sameOutside rfl fun k _ hDown => ?_
    obtain ⟨names, -, rfl⟩ := hDown
    exact covered_iff.mpr ⟨_, List.mem_singleton_self _, List.prefix_append _ _⟩
  · have hFile := hAll _ (List.mem_singleton_self _)
    have hLocate := Disk.locate_below_singleton hUnpacking.reached hUnpacking.directory
      course_xml_isName ⟨by decide, by decide⟩
    rw [coursePath, child_of_isName _ course_xml_isName]
    exact Disk.read_of_entry (Disk.entry_of_locate hLocate hFile)
  · have hLocate := Disk.locate_below_singleton hUnpacking.reached hUnpacking.directory (by decide)
      hWritable
    rw [staticPath, child_of_isName _ (by decide), hLocate, List.append_assoc]
    rfl
  · by_contra hSome
    obtain ⟨e, he⟩ := Option.ne_none_iff_exists'.mp hSome
    rw [List.append_cons] at he
    obtain ⟨x, hx, -⟩ := hUnpacking.sound ["static"] e (by simp) he
    simp [Archive.Bundle.single] at hx

theorem HasRoom.confined_single {element : Xml.Element} (h : HasRoom w.disk)
    (hRead : w.disk.read archive = .ok (packedSingle text)) (hBare : IsBareCourse text element)
    {w₁ : World} (hRun : (Archive.unpack archive unpackedPath).run (opened archive w) = (.ok (), w₁))
    (kinds : List String) : CourseConfined w₁.disk unpackedPath kinds := by
  obtain ⟨w₂, hUnpacked, -, hCourse, -⟩ := h.unpack_single hRead
  rw [hRun] at hUnpacked
  cases hUnpacked
  exact hBare.confined hCourse kinds

/-- A course of one file that has no chapters, in whatever file it is described in full. The latter
may be any on the disk that its archive stands on, which the course is unpacked on. -/
structure IsShortCourse (d : Disk) (text : String) (top full : Xml.Element) : Prop where
  read : ∀ d p, d.read p = .ok (.ofText text) → readXml d p = .ok top
  described : ∀ d', d.SameOutside d.here [d.place workshop] d' →
    describingElement d' unpackedPath top = .ok full
  chapters : partIds full "chapter" = []

theorem isShortCourse_of_bare {element : Xml.Element} (h : IsBareCourse text element)
    (d : Disk) : IsShortCourse d text element element :=
  ⟨h.read, fun _ _ => describingElement_of_no_url h.url, h.chapters⟩

variable {top full : Xml.Element}

/-- Where a course can be written and the workshop is not in the way, an archive with a course of one
file is converted. -/
theorem convert_single (hFits : FitsCourse config out name) (hRoom : HasRoom w.disk)
    (h : TakesCourse config out name w.disk l) (hApart : Apart [w.disk.place workshop] (l ++ [name]))
    (hName : courseDirectory out archive = out.below [name])
    (hRead : w.disk.read archive = .ok (packedSingle text))
    (hShort : IsShortCourse w.disk text top full) :
    ∃ report w', ((standard config).convert archive out).run w = (.ok report, w') ∧
      HoldsCourse config (emptyDocument config (courseTitle top full)) w'.disk.tree
        (l ++ [name]) := by
  obtain ⟨w₁, hUnpacked, hSame, hCourse, hStatic, hMissing⟩ := hRoom.unpack_single hRead
  have hThere : w.disk.IsThere out :=
    Disk.isThere_of_entry (Disk.entry_of_locate h.reached h.directory)
  have hHas : w₁.disk.has (coursePath unpackedPath) = .ok true :=
    Disk.ask_of_entry (Disk.entry_of_read hCourse) _
  have hElse : ¬ l ++ [name] <+: w.disk.place workshop ++ ["extracted", "static"] :=
    (hApart.symm.below _ _ (List.mem_singleton_self _)).1
  obtain ⟨report, w₂, hConverted, hHere, hHolds⟩ := convertDirectory_ok hFits
    (h.same hSame (hRoom.avoids hThere) hApart) hHas (hShort.read _ _ hCourse)
    (hShort.described _ hSame) hShort.chapters hStatic hMissing hElse
  have hRun : (convertUnpacked (standard config) archive out).run (opened archive w) =
      (.ok report, w₂) := by
    rw [convertUnpacked, run_bind_of_ok hUnpacked, hName, hConverted]
  -- that the workshop is removed is not seen outside of it
  have hPlace : w₂.disk.place workshop = w.disk.place workshop :=
    Disk.place_congr (hHere.trans hSame.here_eq') workshop
  have hRemoved : w₂.disk.SameOutside w₂.disk.here [w.disk.place workshop]
      (w₂.disk.remove workshop) :=
    Disk.SameOutside.remove_of_covered rfl
      (covered_iff.mpr ⟨_, List.mem_singleton_self _, hPlace ▸ List.prefix_refl _⟩)
  exact ⟨report, _, by rw [convert_run, hRun], hHolds.same hRemoved hApart⟩

/-- A course that is described in a file that cannot be read is not converted. -/
theorem convert_single_fails {e : Failure} (hRoom : HasRoom w.disk)
    (hRead : w.disk.read archive = .ok (packedSingle text))
    (hTop : ∀ d p, d.read p = .ok (.ofText text) → readXml d p = .ok top)
    (hDescribed : ∀ d', w.disk.SameOutside w.disk.here [w.disk.place workshop] d' →
      describingElement d' unpackedPath top = .error e) :
    (((standard config).convert archive out).run w).1 = .error e := by
  obtain ⟨w₁, hUnpacked, hSame, hCourse, -⟩ := hRoom.unpack_single hRead
  have hHas : w₁.disk.has (coursePath unpackedPath) = .ok true :=
    Disk.ask_of_entry (Disk.entry_of_read hCourse) _
  have hRoot : (World.reading (Reading.ofLoad (resolveRoot w₁.disk unpackedPath))).run w₁ =
      (.ok unpackedPath, w₁) := by
    rw [resolveRoot, hHas]
    rfl
  have hOutline (notices : List Notice) :
      ((World.reading (readOutline w₁.disk unpackedPath (standard config).registry.kinds)).run
        ⟨w₁.disk, notices⟩).1 = .error e := by
    rw [World.reading_run, readOutline_run, hHas, hTop _ _ hCourse]
    simp only [hDescribed _ hSame]
  rw [convert_run, convertUnpacked, run_bind_of_ok hUnpacked, convertDirectory,
    run_bind_of_ok (World.getDisk_run w₁), run_bind_of_ok hRoot, run_bind_of_ok (World.tell_run _ _),
    run_bind_of_ok (World.getDisk_run _)]
  exact congrArg Prod.fst (run_bind_of_error (Prod.ext (hOutline _) rfl))

/-! ## Two archives -/

section

variable {before : String}

/-- An archive is converted into a directory of its own, and nothing else changes. -/
theorem convert_beside (c : Converter) (hConfig : c.config.HasPlainNames) (hRoom : HasRoom w.disk)
    (hReached : w.disk.locate out = .ok l) (hDir : w.disk.tree.find? l = some .directory)
    (hUp : name ≠ "..") (hApart : Apart [l ++ [name]] (w.disk.place workshop))
    (hName : courseDirectory out archive = out.below [name]) :
    w.SameOutside w.disk.here [l ++ [name]] ((c.convert archive out).run w).2 := by
  have hThere : w.disk.IsThere out := Disk.isThere_of_entry (Disk.entry_of_locate hReached hDir)
  have hOwn := isOutput_of_isThere hThere rfl hUp
  have hPlace : inside (w.disk.place out) [name] = [l ++ [name]] := by
    rw [← Disk.locate_eq_place hReached]
    rfl
  rw [← hName, hPlace] at hOwn
  exact convert_sameOutside c hConfig hRoom hOwn hApart

/-- A course without chapters is converted into a directory of its own, and nothing else changes. -/
theorem convert_single_beside (hFits : FitsCourse config out name) (hRoom : HasRoom w.disk)
    (hTakes : TakesCourse config out name w.disk l)
    (hApart : Apart [l ++ [name]] (w.disk.place workshop))
    (hName : courseDirectory out archive = out.below [name])
    (hRead : w.disk.read archive = .ok (packedSingle text))
    (hShort : IsShortCourse w.disk text top full) :
    ∃ report w', ((standard config).convert archive out).run w = (.ok report, w') ∧
      w.SameOutside w.disk.here [l ++ [name]] w' ∧
      HoldsCourse config (emptyDocument config (courseTitle top full)) w'.disk.tree
        (l ++ [name]) := by
  obtain ⟨report, w', hRun, hHolds⟩ :=
    convert_single hFits hRoom hTakes hApart.symm hName hRead hShort
  have hSame := convert_beside (standard config) ⟨hFits.plain.document, hFits.plain.media⟩ hRoom
    hTakes.reached hTakes.directory hFits.isName.ne_up hApart hName
  rw [hRun] at hSame
  exact ⟨report, w', hRun, hSame, hHolds⟩

variable {w₁ : World} (hFresh : IsFresh w.disk out) (hTakes : TakesCourse config out name w.disk l)
  (hSame : w.SameOutside w.disk.here [l ++ [name]] w₁)
  (hHolds : HoldsCourse config before w₁.disk.tree (l ++ [name]))

include hFresh hTakes hSame hHolds

end

end Converter

end Coursebook
