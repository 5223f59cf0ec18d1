import Coursebook.Proofs.Conversion.Batch

/-!
# Coursebook — how far a conversion reaches

A course is written by paths that are on the way to its output directory or stay below it, so nothing
else on the disk can be told from before when the conversion ends, whether it succeeds or not; and the
workshop, which has come up on the way, is gone.

* `convertDirectory_growsIn` — a course directory.
* `convert_reach` — an archive with any name.
* `convert_stays_inside` — an archive with a name that does not lead out of the output directory.
* `dotted_course_leaves_output` — what comes of the one name that does.
-/

namespace Coursebook

open Files Media

variable {here : Location} {config : Config} {root out p : Path} {d d' : Disk} {w : World}
  {l : Location}

/-! ## Places -/

/-- Names lead back first, and then down by names that never go back. -/
theorem Files.Location.exists_follow_eq (l : Location) (names : List String) :
    ∃ n more, l.follow names = l.take n ++ more ∧ ".." ∉ more := by
  induction names generalizing l with
  | nil => exact ⟨l.length, [], by simp, List.not_mem_nil⟩
  | cons name r ih =>
    obtain ⟨n, more, hFollow, hUp⟩ := ih (l.enter name)
    rw [Location.follow_cons, hFollow, Location.enter]
    by_cases hBack : name = ".."
    · refine ⟨min n (l.length - 1), more, ?_, hUp⟩
      rw [if_pos hBack, List.dropLast_eq_take, List.take_take]
    · rw [if_neg hBack]
      rcases Nat.le_total n l.length with hn | hn
      · exact ⟨n, more, by rw [List.take_append_of_le_length hn], hUp⟩
      · cases hStep : n - l.length with
        | zero =>
          refine ⟨n, more, ?_, hUp⟩
          rw [List.take_append_of_le_length (by omega)]
        | succ m =>
          refine ⟨n, name :: more, ?_, by simpa [hUp] using Ne.symm hBack⟩
          rw [List.take_append, hStep]
          simp

/-- Whatever is not above the working directory is reached straight down. -/
theorem Files.Location.isDown_place (hHere : here <+: l) (hPlace : l <+: Disk.place ⟨{}, here⟩ p) :
    l.IsDown (Disk.place ⟨{}, here⟩ p) := by
  obtain ⟨names, hNames⟩ := hPlace
  obtain ⟨n, more, hFollow, hUp⟩ := Location.exists_follow_eq (Disk.start ⟨{}, here⟩ p) p.names
  have hShort : ((Disk.start ⟨{}, here⟩ p).take n).length ≤ l.length := by
    refine Nat.le_trans (List.length_take_le' _ _) (Nat.le_trans ?_ hHere.length_le)
    unfold Disk.start
    cases p.root <;> simp
  refine ⟨names, ?_, hNames.symm⟩
  rw [Disk.place, hFollow, List.append_eq_append_iff] at hNames
  rcases hNames with ⟨above, hBack, rfl⟩ | ⟨above, rfl, rfl⟩
  · -- the names lead back no further than to the location
    have hNone : above = [] := by
      rw [hBack, List.length_append] at hShort
      exact List.eq_nil_of_length_eq_zero (by omega)
    simpa [hNone] using hUp
  · exact fun hMem => hUp (List.mem_append_right above hMem)

/-- A place of a path that stays below a directory. -/
def Reached (here : Location) (out : Path) (l : Location) : Prop :=
  ∃ p : Path, p.IsWithin out ∧ l = Disk.place ⟨{}, here⟩ p

/-- A place of a path that stays below a directory, or is on the way to it. -/
def Approached (here : Location) (out : Path) (l : Location) : Prop :=
  Reached here out l ∨ ∃ n, l = Disk.place ⟨{}, here⟩ (out.upTo n)

/-- What writing into a directory may make of a world: directories come up on the way to it and below,
and files are written below. -/
def World.GrowsIn (here : Location) (out : Path) (w w' : World) : Prop :=
  w.disk.GrowsTo (Approached here out) (fun l _ => Reached here out l) w'.disk

theorem Reached.below (h : Reached d.here out l) : d.place out <+: l := by
  obtain ⟨p, hWithin, rfl⟩ := h
  obtain ⟨names, hNames⟩ := hWithin.place d
  exact ⟨names, hNames.symm⟩

theorem Approached.isDown (hHere : here <+: l) {k : Location} (h : Approached here out k)
    (hBelow : l <+: k) : l.IsDown k := by
  rcases h with ⟨p, -, rfl⟩ | ⟨n, rfl⟩
  · exact Location.isDown_place hHere hBelow
  · exact Location.isDown_place hHere hBelow

namespace World.GrowsIn

theorem refl (w : World) : w.GrowsIn here out w := Disk.GrowsTo.refl w.disk

theorem trans {w₁ w₂ : World} (h : w.GrowsIn here out w₁) (h' : w₁.GrowsIn here out w₂) :
    w.GrowsIn here out w₂ :=
  Disk.GrowsTo.trans h h'

/-- What is written into a directory has plain names, wherever it comes to stand. -/
theorem isPlainBelow {w' : World} (h : w.GrowsIn here out w') (hHere : here <+: l)
    (hPlain : w.disk.IsPlainBelow l) : w'.disk.IsPlainBelow l := by
  intro x hx hBelow
  have hThere := Tree.find?_ne_none_of_mem hx
  rcases Disk.GrowsTo.find h x.1 with hSame | ⟨hMade, -⟩ | ⟨c, hWritten, -⟩
  · rw [hSame] at hThere
    obtain ⟨e, he⟩ := Option.ne_none_iff_exists'.mp hThere
    by_cases hTop : x.1 = []
    · rw [hTop, List.prefix_nil] at hBelow
      exact ⟨[], List.not_mem_nil, by rw [hTop, hBelow]; rfl⟩
    · exact hPlain (x.1, e) (Tree.mem_entries_of_find? hTop he) hBelow
  · exact hMade.isDown hHere hBelow
  · exact Approached.isDown hHere (.inl hWritten) hBelow

end World.GrowsIn

/-! ## Writing a course -/

/-- The working directory is the same after each change, so what is made and written after all of them
is reached from it. -/
theorem growsIn_isKept : IsKept fun w w' => w.disk.here = here → w.GrowsIn here out w' where
  trans h h' hHere :=
    let hFirst := h hHere
    hFirst.trans (h' ((Disk.GrowsTo.here hFirst).trans hHere))
  quiet _ _ _ := .refl _

theorem ensureDirectories_growsIn (hHere : w.disk.here = here) (hp : p = out ∨ p.IsWithin out) :
    w.GrowsIn here out ((World.change (ensureDirectories p)).run w).2 := by
  refine (ensureDirectories_grows w.disk p fun l _ => Reached here out l).mono ?_ fun _ _ => id
  rintro l ⟨n, rfl⟩
  rw [Disk.SameOutside.place_eq hHere]
  rcases hp with rfl | hWithin
  · exact .inr ⟨n, rfl⟩
  · rcases hWithin.upTo n with ⟨m, hm⟩ | hBelow
    · exact .inr ⟨m, by rw [hm]⟩
    · exact .inl ⟨_, hBelow, rfl⟩

theorem write_growsIn (hHere : d.here = here) (hp : p.IsWithin out) (c : Content) :
    d.GrowsTo (Approached here out) (fun l _ => Reached here out l) ((write p c).run d).2 := by
  refine (write_grows d p c _).mono (fun _ => id) ?_
  rintro l c ⟨rfl, -⟩
  exact ⟨p, hp, Disk.SameOutside.place_eq hHere p⟩

theorem tryCopy_growsIn (hHere : w.disk.here = here) (hConfig : config.HasPlainNames)
    (source : Path) {names : List String} (hNames : names ≠ [] ∧ ".." ∉ names) :
    w.GrowsIn here out ((World.tryCopy (source.below names)
      ((mediaPath config out).child (copyName names))).run w).2 := by
  have hTarget := copyTarget_isWithin hConfig w.disk source out hNames
  show w.disk.GrowsTo _ _ ((copy _ _).run w.disk).2
  rw [Files.copy_run]
  split
  · exact .refl w.disk
  · split
    · exact .refl w.disk
    · exact write_growsIn hHere hTarget _

/-- The static files have to stand at plain names below the working directory. -/
theorem convertDirectory_growsIn (c : Converter) (hConfig : c.config.HasPlainNames)
    (hHere : w.disk.here = here) (hStatic : here <+: w.disk.place (staticPath root))
    (hPlain : w.disk.IsPlainBelow (w.disk.place (staticPath root))) :
    w.GrowsIn here out ((c.convertDirectory root out).run w).2 := by
  refine convertDirectory_keeps c growsIn_isKept
    (fun _ hHere => ensureDirectories_growsIn hHere (.inl rfl))
    (fun text _ hHere => write_growsIn hHere (documentPath_isWithin hConfig out) _)
    (fun _ hHere => ensureDirectories_growsIn hHere (.inr (mediaPath_isWithin hConfig out)))
    (fun w₁ hGrows names hNames _ hHere₂ => ?_) hHere
  have hPlain₁ := (hGrows hHere).isPlainBelow hStatic hPlain
  rw [← (hGrows hHere).place] at hPlain₁
  obtain ⟨e, hMem, -⟩ := mem_namesBelow.mp hNames
  exact tryCopy_growsIn hHere₂ hConfig _ (not_mem_of_mem_listAll hPlain₁ hMem)

/-- Copying takes nothing away. -/
theorem copyAssets_grows (config : Config) (root out : Path) (w : World) :
    w.disk.GrowsTo (fun _ => True) (fun _ _ => True) ((copyAssets config root out).run w).2.disk := by
  have hKept : IsKept fun w w' =>
      w.disk.GrowsTo (fun _ => True) (fun _ _ => True) w'.disk :=
    ⟨.trans, fun w _ => .refl w.disk⟩
  refine copyAssets_keeps hKept (fun w => ?_) fun _ _ names _ w => ?_
  · exact (ensureDirectories_grows w.disk _ _).mono (fun _ _ => trivial) fun _ _ => id
  · show w.disk.GrowsTo _ _ ((copy _ _).run w.disk).2
    rw [Files.copy_run]
    split
    · exact .refl w.disk
    · split
      · exact .refl w.disk
      · exact (write_grows w.disk _ _ _).mono (fun _ => id) fun _ _ _ => trivial

/-- Where a file stands on a disk that grows, there is one afterwards. -/
theorem Files.Disk.GrowsTo.file {made : Location → Prop} {written : Location → Content → Prop}
    (h : d.GrowsTo made written d') {c : Content} (hFile : d.tree.find? l = some (.file c)) :
    ∃ c', d'.tree.find? l = some (.file c') := by
  rcases h.find l with hSame | ⟨-, hNone, -⟩ | ⟨c', -, -, hWritten⟩
  · exact ⟨c, hSame.trans hFile⟩
  · rw [hFile] at hNone
    cases hNone
  · exact ⟨c', hWritten⟩

/-! ## Converting an archive -/

namespace Converter

variable {archive : Path}

/-- First the workshop is filled, then the course is written. -/
theorem convertUnpacked_grows (c : Converter) (hConfig : c.config.HasPlainNames)
    (hRoom : HasRoom w.disk) (archive out : Path) :
    ∃ w₁ : World, w.disk.Edits (fun l _ => (w.disk.place workshop).IsDown l) w₁.disk ∧
      w₁.GrowsIn w.disk.here (courseDirectory out archive)
        ((c.convertUnpacked archive out).run (opened archive w)).2 := by
  have hEdits := hRoom.openWorkshop_edits.trans (hRoom.unpack_edits archive)
  rw [convertUnpacked, run_bind]
  rcases hRun : (Archive.unpack archive unpackedPath).run (opened archive w) with ⟨outcome, w₁⟩
  rw [hRun] at hEdits
  refine ⟨w₁, hEdits, ?_⟩
  cases outcome with
  | error e => exact .refl w₁
  | ok _ =>
    have hPlace := (hEdits.place (staticPath unpackedPath)).trans (place_static w.disk)
    refine convertDirectory_growsIn c hConfig hEdits.here_eq ?_ ?_
    · rw [hPlace, place_workshop, List.append_assoc]
      exact List.prefix_append _ _
    · exact hPlace ▸ (hRoom.isPlainBelow hEdits).below _

/-- What is left when the workshop has been removed. -/
theorem find?_remove_workshop (hHere : d.tree.find? d.here = some .directory) (l : Location) :
    (d.remove workshop).tree.find? l =
      if (d.place workshop).isPrefixOf l then none else d.tree.find? l := by
  have hTop : d.place workshop ≠ [] := by simp [place_workshop]
  rw [Disk.remove, locate_workshop hHere]
  exact Tree.find?_removeAll _ _ _ hTop

/-- Whatever the archive is called and however its conversion ends, the workshop is gone then, and
beside the directory of the course only directories on the way to it have come up. -/
theorem convert_reach (c : Converter) (hConfig : c.config.HasPlainNames) (hRoom : HasRoom w.disk)
    (archive out : Path) :
    let after := ((c.convert archive out).run w).2.disk
    (∀ l, w.disk.place workshop <+: l → after.tree.find? l = none) ∧
    ∀ l, ¬ w.disk.place (courseDirectory out archive) <+: l →
      after.tree.find? l = w.disk.tree.find? l ∨
      (∃ n, l = w.disk.place ((courseDirectory out archive).upTo n)) ∧
        w.disk.tree.find? l = none ∧ after.tree.find? l = some .directory := by
  obtain ⟨w₁, hEdits, hGrows⟩ := c.convertUnpacked_grows hConfig hRoom archive out
  rw [convert_run]
  dsimp only
  generalize ((c.convertUnpacked archive out).run (opened archive w)).2 = w₂ at hGrows ⊢
  have hHere : w₂.disk.here = w.disk.here := (Disk.GrowsTo.here hGrows).trans hEdits.here_eq
  -- outside the workshop nothing has come up before the course was written
  have hBefore {l : Location} (hl : ¬ w.disk.place workshop <+: l) :
      w₁.disk.tree.find? l = w.disk.tree.find? l := by
    refine hEdits.find_eq fun e hDown => hl ?_
    obtain ⟨names, -, rfl⟩ := hDown
    exact List.prefix_append _ _
  have hOuter : ¬ w.disk.place workshop <+: w.disk.here := by
    intro hIn
    have hLength := hIn.length_le
    simp [place_workshop] at hLength
  have hThere : w₂.disk.tree.find? w₂.disk.here = some .directory := by
    refine hHere ▸ Disk.GrowsTo.directory hGrows ?_
    rw [hBefore hOuter]
    exact hRoom.here
  have hFind := find?_remove_workshop hThere
  rw [Disk.place_congr hHere] at hFind
  constructor
  · intro l hl
    rw [hFind, if_pos (List.isPrefixOf_iff_prefix.mpr hl)]
  · intro l hl
    by_cases hWorkshop : w.disk.place workshop <+: l
    · -- in the workshop there is nothing, as before
      obtain ⟨names, rfl⟩ := hWorkshop
      left
      rw [hFind, if_pos (List.isPrefixOf_iff_prefix.mpr (List.prefix_append _ _)),
        hRoom.find?_eq_none]
    · rw [hFind, if_neg (hWorkshop <| List.isPrefixOf_iff_prefix.mp ·), ← hBefore hWorkshop]
      have hElse : ¬ Reached w.disk.here (courseDirectory out archive) l := fun h => hl h.below
      rcases Disk.GrowsTo.find hGrows l with hSame | ⟨hMade, hNone, hDir⟩ | ⟨c, hWritten, -⟩
      · exact .inl hSame
      · rcases hMade with hReached | ⟨n, hn⟩
        · exact absurd hReached hElse
        · refine .inr ⟨⟨n, hn.trans ?_⟩, hNone, hDir⟩
          exact (Disk.SameOutside.place_eq (d := w.disk) rfl _).symm
      · exact absurd hWritten hElse

/-! ## The name of the course -/

/-- A course is written into the output directory or into one in it, unless its name leads back. -/
theorem courseDirectory_eq (out : Path) {file : String}
    (hName : Archive.courseName (.ofString file) ≠ "..") :
    courseDirectory out (.ofString file) = out ∨
      ∃ name, name ≠ ".." ∧ courseDirectory out (.ofString file) = out.below [name] := by
  have hSlash := not_mem_courseName (Path.slash_not_mem_name file)
  rw [courseDirectory, child_of_no_slash out hSlash]
  split
  · exact .inl out.below_nil
  · exact .inr ⟨_, hName, rfl⟩

/-- A disk with the archive of a course that has nothing in it, and an empty directory. -/
def archiveDisk (file : String) : Disk where
  tree := ⟨[([file], .file (packedSingle "<course/>")), (["o"], .directory)]⟩

theorem archiveDisk_hasRoom {file : String} (h : file ≠ "courseconverter_tmp") :
    HasRoom (archiveDisk file) := by
  refine ⟨rfl, fun x hx hIn => ?_⟩
  rw [place_workshop] at hIn
  simp only [archiveDisk, List.mem_cons, List.not_mem_nil, or_false] at hx
  rcases hx with rfl | rfl
  · simp [archiveDisk, List.cons_prefix_cons, h.symm] at hIn
  · simp [archiveDisk, List.cons_prefix_cons] at hIn

theorem archiveDisk_read :
    (archiveDisk "...tar.gz").read (.ofString "...tar.gz") = .ok (packedSingle "<course/>") := by
  have hPath : Path.ofString "...tar.gz" = ⟨.relative, ["...tar.gz"]⟩ := by decide
  have hLocate : (archiveDisk "...tar.gz").locate ⟨.relative, ["...tar.gz"]⟩ = .ok ["...tar.gz"] := by
    rw [Disk.locate_eq_walk _ ⟨by decide, by decide⟩]
    exact Tree.walk_singleton rfl (by decide) (by decide)
  rw [hPath]
  exact Disk.read_of_entry (Disk.entry_of_locate hLocate rfl)

/--
**A conversion stays inside its output directory.** However it ends, nothing has changed elsewhere,
except that directories may have come up that were missing on the way to the output directory; and
nothing is left of the workshop. The only name of an archive that leads out of the output directory is
excluded.
-/
theorem convert_stays_inside (c : Converter) (hConfig : c.config.HasPlainNames)
    (hRoom : HasRoom w.disk) (file : String) (out : Path)
    (hName : Archive.courseName (.ofString file) ≠ "..") :
    let after := ((c.convert (.ofString file) out).run w).2.disk
    (∀ l, w.disk.place workshop <+: l → after.tree.find? l = none) ∧
    ∀ l, ¬ w.disk.place out <+: l →
      after.tree.find? l = w.disk.tree.find? l ∨
      (∃ n, l = w.disk.place (out.upTo n)) ∧ w.disk.tree.find? l = none ∧
        after.tree.find? l = some .directory := by
  intro after
  obtain ⟨hGone, hElse⟩ := c.convert_reach hConfig hRoom (.ofString file) out
  refine ⟨hGone, fun l hl => ?_⟩
  rcases courseDirectory_eq out hName with hSame | ⟨name, hUp, hBelow⟩
  · rw [hSame] at hElse
    exact hElse l hl
  · have hPlace := w.disk.place_below_singleton out hUp
    rw [hBelow, hPlace] at hElse
    rcases hElse l fun hIn => hl ((List.prefix_append _ _).trans hIn) with hEqual | ⟨⟨n, hn⟩, hMade⟩
    · exact .inl hEqual
    · -- on the way to the directory of the course there is besides only that itself
      rcases out.upTo_below_singleton name n with ⟨m, hm⟩ | hAll
      · exact .inr ⟨⟨m, hm ▸ hn⟩, hMade⟩
      · rw [hAll, hPlace] at hn
        exact absurd (hn ▸ List.prefix_append _ _) hl

/-- A course whose name is three dots. -/
theorem ellipsis_stays_inside :
    let w : World := ⟨archiveDisk "....tar.gz", []⟩
    let after := (((standard {}).convert (.ofString "....tar.gz") (.ofString "o")).run w).2.disk
    HasRoom w.disk ∧ Archive.courseName (.ofString "....tar.gz") = "..." ∧
    after.tree.find? ["courseconverter_tmp"] = none ∧
    ∀ l, ¬ ["o"] <+: l → l ≠ [] → after.tree.find? l = w.disk.tree.find? l := by
  intro w after
  have hRoom : HasRoom w.disk := archiveDisk_hasRoom (by decide)
  have hName : Archive.courseName (.ofString "....tar.gz") = "..." := by decide
  obtain ⟨hGone, hElse⟩ := convert_stays_inside (standard {}) ⟨by decide, by decide⟩ hRoom "....tar.gz"
    (.ofString "o") (by rw [hName]; decide)
  refine ⟨hRoom, hName, hGone _ (by decide), fun l hl hTop => ?_⟩
  rcases hElse l hl with hSame | ⟨⟨n, hn⟩, -⟩
  · exact hSame
  · -- on the way to the directory there is only the one that it is in
    have hOut : Path.ofString "o" = ⟨.relative, ["o"]⟩ := by decide
    rw [hOut] at hn
    cases n with
    | zero => exact absurd hn hTop
    | succ n =>
      rw [Path.upTo_of_length_le (by simp)] at hn
      exact absurd (hn ▸ List.prefix_refl _) hl

/-- The way into a directory and back leads to where it starts. -/
theorem locate_back (hHere : d.here = []) (hDir : d.tree.find? ["o"] = some .directory) :
    d.locate ⟨.relative, ["o", ".."]⟩ = .ok [] := by
  have hStart : d.start ⟨.relative, ["o", ".."]⟩ = [] := hHere
  have hTop : d.tree.find? [] = some .directory := rfl
  rw [Disk.locate_eq_walk _ ⟨by decide, by decide⟩, hStart]
  simp [Tree.walk, hDir, hTop, show isLongName "o" = false by decide]

/-- A course whose name is two dots: its document is beside the output directory, not in it. -/
theorem dotted_course_leaves_output :
    let w : World := ⟨archiveDisk "...tar.gz", []⟩
    let after := (((standard {}).convert (.ofString "...tar.gz") (.ofString "o")).run w).2.disk
    HasRoom w.disk ∧ Archive.hasSuffix "...tar.gz" = true ∧
    ¬ w.disk.place (.ofString "o") <+: ["course.md"] ∧
    w.disk.tree.find? ["course.md"] = none ∧
    ∃ c, after.tree.find? ["course.md"] = some (.file c) := by
  intro w after
  have hRoom : HasRoom w.disk := archiveDisk_hasRoom (by decide)
  refine ⟨hRoom, by decide, by decide, by decide, ?_⟩
  let directory : Path := ⟨.relative, ["o", ".."]⟩
  have hOut : courseDirectory (.ofString "o") (.ofString "...tar.gz") = directory := by decide
  -- the course is unpacked and read
  obtain ⟨w₁, hUnpacked, hSame, hCourse, -⟩ := hRoom.unpack_single archiveDisk_read
  have hHas : w₁.disk.has (Course.coursePath unpackedPath) = .ok true :=
    Disk.ask_of_entry (Disk.entry_of_read hCourse) _
  obtain ⟨told, hRun⟩ := convertDirectory_run_of_no_chapter {} directory hHas
    (bare_untitled.read _ _ hCourse) (describingElement_of_no_url bare_untitled.url)
    bare_untitled.chapters
  -- its document is written into the directory around the output directory
  have hReached : w₁.disk.locate directory = .ok [] :=
    locate_back hSame.here_eq' (hSame.find? (by decide))
  have hMade : (ensureDirectories directory).run w₁.disk = (.ok (), w₁.disk) := by
    rw [ensureDirectories_of_locate hReached, ensureDirectory_of_directory hReached rfl]
  have hFree : w₁.disk.tree.find? ([] ++ [Config.markdownFile {}]) ≠ some .directory := by
    rw [hSame.find? (by decide)]
    decide
  let text := emptyDocument {} (Course.courseTitle untitled untitled)
  obtain ⟨path, notices, hWritten⟩ := writeMarkdown_run (w := ⟨w₁.disk, told⟩) hMade hReached rfl
    (by decide) ⟨by decide, by decide⟩ hFree text
  -- what is done after that takes no file away
  let w₂ : World := ⟨w₁.disk.put ["course.md"] (.file (.ofText text)), notices⟩
  have hGrows : w₂.disk.GrowsTo (fun _ => True) (fun _ _ => True)
      ((convertUnpacked (standard {}) (.ofString "...tar.gz") (.ofString "o")).run
        (opened (.ofString "...tar.gz") w)).2.disk := by
    rw [convertUnpacked, run_bind_of_ok hUnpacked, hOut, hRun, run_bind_of_ok hWritten]
    refine run_bind_keeps (R := fun (w w' : World) => w.disk.GrowsTo _ _ w'.disk) .trans
      (copyAssets_grows {} unpackedPath directory w₂) fun _ w₃ _ _ => ?_
    exact .refl w₃.disk
  obtain ⟨c, hFile⟩ := hGrows.file (w₁.disk.find?_put_self (by simp) _)
  have hHere := hGrows.here.trans hSame.here_eq'
  have hThere := hGrows.directory (l := []) rfl
  refine ⟨c, ?_⟩
  show ((convert _ _ _).run w).2.disk.tree.find? _ = _
  rw [convert_run, find?_remove_workshop (hHere ▸ hThere), hFile, place_workshop, hHere]
  rfl

end Converter

end Coursebook
