import Coursebook.Proofs.Conversion.Frame
import Coursebook.Proofs.Conversion.Printing
import Coursebook.Proofs.Course.Locality

/-!
# Coursebook — conversions on two disks

A conversion that keeps away from some locations is the same on two disks that differ at or below
them only: it ends in the same way on both, and what it does to both is the same. What has been told
before plays no part in it.

* `quiet_alike` — a step that leaves the disks alone, and what comes after it.
* `unpack_alike`, `copyAssets_alike`, `convertDirectory_alike` — the parts of a conversion.
* `convert_alike` — an archive.
-/

namespace Coursebook

open Files Course Media

variable {here : Location} {cones own : List Location} {config : Config} {root out : Path}
  {d d' : Disk} {w w' : World} {α β : Type}

/-- Two runs from worlds that are the same outside some locations, to such worlds. -/
abbrev RunsApart (here : Location) (cones : List Location) (x y : Step World α) (w w' : World) :
    Prop :=
  RunsAlike (World.SameOutside here cones) x y w w'

/-! ## Steps -/

theorem change_alike {x : Change α}
    (h : RunsAlike (Disk.SameOutside here cones) x x w.disk w'.disk) :
    RunsApart here cones (World.change x) (World.change x) w w' := by
  refine ⟨?_, h.state⟩
  rw [World.change_run, World.change_run, h.outcome]

theorem tell_alike (h : w.SameOutside here cones w') (n : Notice) :
    RunsApart here cones (World.tell n) (World.tell n) w w' := ⟨rfl, h⟩

/-- A step that leaves the disks alone, and what comes after it. -/
theorem quiet_alike {x y : Step World α} {f g : α → Step World β}
    (h : w.SameOutside here cones w') (hOutcome : (y.run w').1 = (x.run w).1)
    (hQuiet : (x.run w).2.disk = w.disk) (hQuiet' : (y.run w').2.disk = w'.disk)
    (hNext : ∀ a notices notices', x.run w = (.ok a, ⟨w.disk, notices⟩) →
      World.SameOutside here cones ⟨w.disk, notices⟩ ⟨w'.disk, notices'⟩ →
      RunsApart here cones (f a) (g a) ⟨w.disk, notices⟩ ⟨w'.disk, notices'⟩) :
    RunsApart here cones (x >>= f) (y >>= g) w w' := by
  have hState : World.SameOutside here cones (x.run w).2 (y.run w').2 := by
    unfold World.SameOutside
    rw [hQuiet, hQuiet']
    exact h
  refine .bind ⟨hOutcome, hState⟩ fun a w₁ w₁' hRun hRun' _ => ?_
  rw [hRun] at hQuiet
  rw [hRun'] at hQuiet'
  obtain ⟨d, notices⟩ := w₁
  obtain ⟨d', notices'⟩ := w₁'
  obtain rfl : d = w.disk := hQuiet
  obtain rfl : d' = w'.disk := hQuiet'
  exact hNext a notices notices' hRun h

/-- Looking at the disk, each run at its own. -/
theorem getDisk_alike {f g : Disk → Step World α}
    (h : RunsApart here cones (f w.disk) (g w'.disk) w w') :
    RunsApart here cones (World.getDisk >>= f) (World.getDisk >>= g) w w' :=
  h.congr (run_bind_of_ok (World.getDisk_run w)) (run_bind_of_ok (World.getDisk_run w'))

theorem ask_alike {question : Disk → Except FileError α} (h : w.SameOutside here cones w')
    (hSame : question w'.disk = question w.disk) {f g : α → Step World β}
    (hNext : ∀ a, RunsApart here cones (f a) (g a) w w') :
    RunsApart here cones (World.ask question >>= f) (World.ask question >>= g) w w' := by
  refine .bind ⟨?_, h⟩ fun a w₁ w₁' hRun hRun' _ => ?_
  · rw [World.ask_run, World.ask_run, hSame]
  · obtain ⟨-, rfl⟩ := Prod.mk.inj hRun
    obtain ⟨-, rfl⟩ := Prod.mk.inj hRun'
    exact hNext a

/-! ## Unpacking -/

section

variable {destination : Path}

theorem unpackMember_alike (h : d.SameOutside here cones d')
    (hClear : destination.IsClear here cones) (wrapper : Option String) (m : Archive.Member) :
    RunsAlike (Disk.SameOutside here cones) (Archive.unpackMember destination wrapper m)
      (Archive.unpackMember destination wrapper m) d d' := by
  unfold Archive.unpackMember
  split
  · exact .pure h _
  · rename_i names hTarget
    obtain ⟨hNames, hUp⟩ := Archive.Member.target?_eq_some hTarget
    have hTarget : (destination.below names).Avoids here cones :=
      hClear.within (Path.isWithin_below hNames hUp)
    dsimp only
    split
    · exact .pure h _
    · exact ensureDirectories_alike h hTarget
    · exact (ensureDirectories_alike h hTarget.parent).bind fun _ _ _ _ _ h₁ =>
        write_alike h₁ hTarget _

theorem unpackAll_alike (h : d.SameOutside here cones d')
    (hClear : destination.IsClear here cones) (wrapper : Option String)
    (members : List Archive.Member) :
    RunsAlike (Disk.SameOutside here cones) (Archive.unpackAll destination wrapper members)
      (Archive.unpackAll destination wrapper members) d d' := by
  induction members generalizing d d' with
  | nil => exact .pure h _
  | cons m r ih => exact (unpackMember_alike h hClear wrapper m).bind fun _ _ _ _ _ h₁ => ih h₁

theorem unpack_alike {archive : Path} (h : w.SameOutside here cones w')
    (hArchive : archive.Avoids here cones) (hClear : destination.IsClear here cones) :
    RunsApart here cones (Archive.unpack archive destination)
      (Archive.unpack archive destination) w w' := by
  refine (change_alike (ensureDirectories_alike h hClear.avoids)).bind fun _ w₁ w₁' _ _ h₁ => ?_
  refine getDisk_alike ?_
  have hLoad : Archive.load w₁'.disk archive = Archive.load w₁.disk archive := by
    unfold Archive.load
    rw [Disk.SameOutside.read h₁ hArchive]
  rw [hLoad]
  cases Archive.load w₁.disk archive with
  | error e => exact .throw h₁ e
  | ok members =>
    have hAll := unpackAll_alike h₁ hClear (Archive.wrapper? members) members
    refine RunsAlike.bind (R := World.SameOutside here cones)
      ⟨congrArg (Except.mapError _) hAll.outcome, hAll.state⟩ fun _ w₂ w₂' _ _ h₂ => ?_
    exact tell_alike h₂ _

end

/-! ## Writing a course -/

theorem writeMarkdown_alike (hConfig : config.HasPlainNames) (h : w.SameOutside here cones w')
    (hOut : out.IsClear here cones) (text : String) :
    RunsApart here cones (writeMarkdown config out text) (writeMarkdown config out text) w w' := by
  refine (change_alike (ensureDirectories_alike h hOut.avoids)).bind fun _ w₁ w₁' _ _ h₁ => ?_
  have hDocument := hOut.within (documentPath_isWithin hConfig out)
  refine (change_alike (write_alike h₁ hDocument _)).bind fun _ w₂ w₂' _ _ h₂ => ?_
  exact (tell_alike h₂ _).bind fun _ _ _ _ _ h₃ => .pure h₃ _

theorem staticFile_isWithin (root : Path) {names : List String} (hUp : ".." ∉ names) :
    ((staticPath root).below names).IsWithin root := by
  have hNames : ".." ∉ "static" :: names := by simpa using hUp
  have hPath : (staticPath root).below names = root.below ("static" :: names) := by
    show (root.below ["static"]).below names = root.below ("static" :: names)
    simp [Path.below, Path.join]
  exact hPath ▸ Path.isWithin_below (List.cons_ne_nil _ _) hNames

theorem lookInto_alike (h : w.SameOutside here cones w') (hRoot : root.IsClear here cones)
    {dirs : List (List String)} (hDirs : ∀ names ∈ dirs, ".." ∉ names) :
    RunsApart here cones (lookInto (staticPath root) dirs) (lookInto (staticPath root) dirs)
      w w' := by
  induction dirs with
  | nil => exact .pure h _
  | cons names r ih =>
    obtain ⟨hUp, hRest⟩ := List.forall_mem_cons.mp hDirs
    have hSame := Disk.SameOutside.ask h (hRoot.within (staticFile_isWithin root hUp)) (· == .directory)
    exact ask_alike h hSame fun _ => ih hRest

theorem copyFiles_alike (hConfig : config.HasPlainNames) (h : w.SameOutside here cones w')
    (hRoot : root.IsClear here cones) (hOut : out.IsClear here cones) {files : List (List String)}
    (hFiles : ∀ names ∈ files, names ≠ [] ∧ ".." ∉ names) :
    RunsApart here cones (copyFiles (staticPath root) (mediaPath config out) files)
      (copyFiles (staticPath root) (mediaPath config out) files) w w' := by
  induction files generalizing w w' with
  | nil => exact .pure h _
  | cons names r ih =>
    obtain ⟨hNames, hRest⟩ := List.forall_mem_cons.mp hFiles
    have hSource := hRoot.within (staticFile_isWithin root hNames.2)
    refine ask_alike h (Disk.SameOutside.ask h hSource (· != .directory)) fun isFile => ?_
    cases isFile with
    | false => exact ih h hRest
    | true =>
      have hTarget := hOut.within (copyPath_isWithin hConfig out names List.not_mem_nil)
      rw [Path.below_nil] at hTarget
      have hInside := hOut.within (copyPath_isWithin hConfig out names
        (not_mem_name_below hNames (staticPath root)))
      have hCopied := copy_alike h hSource hTarget hInside
      refine RunsAlike.bind (R := World.SameOutside here cones)
        ⟨congrArg Except.ok hCopied.outcome, hCopied.state⟩ fun result w₁ w₁' _ _ h₁ => ?_
      cases result with
      | error e => exact (tell_alike h₁ _).bind fun _ _ _ _ _ h₂ => ih h₂ hRest
      | ok _ => exact (ih h₁ hRest).bind fun _ _ _ _ _ h₂ => .pure h₂ _

/-- The static files of a course that is apart are listed alike. -/
theorem namesBelow_same (h : d.SameOutside here cones d') (hRoot : root.IsClear here cones)
    (kind : Entry → Bool) :
    namesBelow d' (staticPath root) kind = namesBelow d (staticPath root) kind := by
  have hWithin := staticFile_isWithin root List.not_mem_nil
  rw [Path.below_nil] at hWithin
  obtain ⟨k, hk⟩ := hWithin.place d
  have hApart : Apart cones (d.place (staticPath root)) := by
    rw [hk, Disk.SameOutside.place_eq h.here_eq]
    exact hRoot.apart.below k
  unfold namesBelow
  rw [h.listAll (hRoot.within hWithin) hApart]

theorem copyAssets_alike (hConfig : config.HasPlainNames) (h : w.SameOutside here cones w')
    (hRoot : root.IsClear here cones) (hOut : out.IsClear here cones)
    (hLayout : Layout here own root out w.disk) :
    RunsApart here cones (copyAssets config root out) (copyAssets config root out) w w' := by
  have hMedia := hOut.within (mediaPath_isWithin hConfig out)
  refine (change_alike (ensureDirectories_alike h hMedia)).bind fun _ w₁ w₁' hRun _ h₁ => ?_
  -- the static files are listed once the media directory is there
  have hLayout₁ : Layout here own root out w₁.disk := by
    have hOwn := hLayout.output.within (mediaPath_isWithin hConfig out)
    have hMade := ensureDirectories_sameOutside hOwn.here_eq hOwn.rests
    rw [World.change_eq_ok hRun] at hMade
    exact hLayout.same hMade
  have hStatic := hRoot.within (staticFile_isWithin root List.not_mem_nil)
  rw [Path.below_nil] at hStatic
  refine ask_alike h₁ (Disk.SameOutside.ask h₁ hStatic _) fun there => ?_
  cases there with
  | false => exact (tell_alike h₁ _).bind fun _ _ _ _ _ h₂ => .pure h₂ _
  | true =>
    refine getDisk_alike ?_
    unfold staticFiles
    simp only [namesBelow_same h₁ hRoot]
    have hDirs : ∀ names ∈ namesBelow w₁.disk (staticPath root) (· == .directory), ".." ∉ names :=
      fun names hNames => (hLayout₁.names hNames).2
    have hFiles : ∀ names ∈ namesBelow w₁.disk (staticPath root) (· != .directory),
        names ≠ [] ∧ ".." ∉ names := fun names hNames => hLayout₁.names hNames
    refine (lookInto_alike h₁ hRoot hDirs).bind fun _ w₂ w₂' _ _ h₂ => ?_
    refine (copyFiles_alike hConfig h₂ hRoot hOut hFiles).bind fun copies w₃ w₃' _ _ h₃ => ?_
    split
    · exact (tell_alike h₃ _).bind fun _ _ _ _ _ h₄ => .pure h₄ _
    · exact .pure h₃ _

/-! ## Conversions -/

namespace Converter

/-- The document of a course and its tally are the same on both disks, if the components have the
same texts. -/
theorem makeDocument_outcome {o : Outline}
    (hTexts : ∀ ref ∈ o.references,
      (Source.mk (.standard config) w'.disk root).componentText ref =
        (Source.mk (.standard config) w.disk root).componentText ref) :
    (((standard config).makeDocument o root).run w').1 =
      (((standard config).makeDocument o root).run w).1 := by
  have hSame : writeDocument config (.standard config) w'.disk o (some root) =
      writeDocument config (.standard config) w.disk o (some root) :=
    writeDocument_congr rfl hTexts
  have hFresh : (⟨{}, w'.notices⟩ : Progress).tally = (⟨{}, w.notices⟩ : Progress).tally := rfl
  obtain ⟨hOutcome, hTally⟩ := (Printing.prints_writeDocument config (.standard config) w.disk o
    (some root)).unheeding hFresh
  rw [makeDocument_run, makeDocument_run]
  simp only [standard]
  rw [hSame, hOutcome, hTally]

theorem convertDirectory_alike (hConfig : config.HasPlainNames) (h : w.SameOutside here cones w')
    (hRoot : root.IsClear here cones) (hOut : out.IsClear here cones)
    (hLayout : Layout here own root out w.disk)
    (hCourse : CourseConfined w.disk root (Registry.standard config).kinds) :
    RunsApart here cones ((standard config).convertDirectory root out)
      ((standard config).convertDirectory root out) w w' := by
  have hApart : Apart cones (w.disk.place root) := by
    rw [Disk.SameOutside.place_eq h.here_eq]
    exact hRoot.apart
  have hBelow : w.disk.SameBelow w'.disk root := Disk.SameOutside.sameBelow h hRoot.avoids hApart
  have hOutline : readOutline w'.disk root (standard config).registry.kinds =
      readOutline w.disk root (standard config).registry.kinds := readOutline_same hBelow hCourse
  refine getDisk_alike ?_
  have hResolve : resolveRoot w'.disk root = resolveRoot w.disk root := by
    unfold resolveRoot
    rw [hBelow.has (coursePath_isWithin root)]
  refine quiet_alike h ?_ rfl rfl fun root' n₁ n₁' hRun h₁ => ?_
  · rw [hResolve]
    rfl
  obtain rfl : root' = root := eq_of_resolveRoot (Prod.mk.inj hRun).1
  refine quiet_alike h₁ rfl rfl rfl fun _ n₂ n₂' _ h₂ => ?_
  refine getDisk_alike ?_
  refine quiet_alike h₂ ?_ rfl rfl fun outline n₃ n₃' hRun h₃ => ?_
  · rw [World.reading_run, World.reading_run, hOutline]
    exact ((Printing.prints_readOutline config _ _ _).unheeding rfl).outcome
  have hRefs := readOutline_confined hCourse (World.reading_eq_ok hRun)
  refine quiet_alike h₃ rfl rfl rfl fun _ n₄ n₄' _ h₄ => ?_
  have hDocument : (((standard config).makeDocument outline root').run ⟨w'.disk, n₄'⟩).1 =
      (((standard config).makeDocument outline root').run ⟨w.disk, n₄⟩).1 :=
    makeDocument_outcome fun ref hRef => componentText_same hBelow config (hRefs ref hRef)
  refine quiet_alike h₄ hDocument rfl rfl fun document n₅ n₅' _ h₅ => ?_
  refine quiet_alike h₅ rfl rfl rfl fun _ n₆ n₆' _ h₆ => ?_
  refine (writeMarkdown_alike hConfig h₆ hOut _).bind fun _ w₇ w₇' hRun _ h₇ => ?_
  -- from here on the disks are no longer those at the start
  have hLayout₇ : Layout here own root' out w₇.disk := by
    have hWritten := writeMarkdown_sameOutside (w := ⟨w.disk, n₆⟩) hConfig hLayout.output document.1
    rw [show (writeMarkdown config out document.1).run _ = _ from hRun] at hWritten
    exact hLayout.same hWritten
  exact (copyAssets_alike hConfig h₇ hRoot hOut hLayout₇).bind fun _ _ _ _ _ h₈ => .pure h₈ _

/-! ### Archives -/

theorem workshop_isClear (hHere : d.here = here) (hApart : Apart cones (d.place workshop)) :
    workshop.IsClear here cones := by
  refine ⟨fun n => ?_, Disk.SameOutside.place_eq hHere _ ▸ hApart⟩
  rw [← Disk.SameOutside.place_eq hHere, place_workshop_upTo]
  split
  · -- what is above the workshop is no further down than the workshop
    rw [not_covered_iff]
    intro k hk hAbove
    exact (hApart k hk).1 (hAbove.trans (place_workshop d ▸ List.prefix_append _ _))
  · simpa using hApart.not_covered []

theorem unpackedPath_isClear (hHere : d.here = here) (hApart : Apart cones (d.place workshop)) :
    unpackedPath.IsClear here cones := by
  have hClear := workshop_isClear hHere hApart
  refine ⟨hClear.within ?_, ?_⟩
  · rw [unpackedPath_eq]
    exact Path.isWithin_below (List.cons_ne_nil _ _) (by decide)
  · rw [place_unpackedPath]
    exact hClear.apart.below _

theorem opened_alike (archive : Path) (h : w.SameOutside here cones w')
    (hApart : Apart cones (w.disk.place workshop)) :
    (opened archive w).SameOutside here cones (opened archive w') := by
  have hClear := workshop_isClear (Disk.SameOutside.here_eq h) hApart
  show Disk.SameOutside here cones (openWorkshop w.disk) (openWorkshop w'.disk)
  unfold openWorkshop
  rcases makeDirectory_alike h hClear.avoids with ⟨fault, hFault, hFault'⟩ | ⟨l, hMade, hMade'⟩
  · rw [hFault, hFault']
    exact h
  · rw [hMade, hMade']
    exact h.put l .directory

/--
**A conversion does not see what others have made.** On two disks that differ only at or below some
locations, an archive is converted alike, if neither its output directory nor the workshop is at,
above or below any of these, and the course in it is confined.
-/
theorem convert_alike (hConfig : config.HasPlainNames) {archive : Path}
    (h : w.SameOutside here cones w') (hRoom : HasRoom w.disk)
    (hApart : Apart cones (w.disk.place workshop)) (hArchive : archive.Avoids here cones)
    (hOut : (courseDirectory out archive).IsClear here cones)
    (hOwn : IsOutput here own (courseDirectory out archive) w.disk)
    (hOwnApart : Apart own (w.disk.place workshop))
    (hCourse : ∀ w₁, (Archive.unpack archive unpackedPath).run (opened archive w) = (.ok (), w₁) →
      CourseConfined w₁.disk unpackedPath (Registry.standard config).kinds) :
    RunsApart here cones ((standard config).convert archive out)
      ((standard config).convert archive out) w w' := by
  have hHere := Disk.SameOutside.here_eq h
  have hRoot := unpackedPath_isClear hHere hApart
  have hUnpacked : RunsApart here cones ((standard config).convertUnpacked archive out)
      ((standard config).convertUnpacked archive out) (opened archive w) (opened archive w') := by
    refine (unpack_alike (opened_alike archive h hApart) hArchive hRoot).bind
      fun _ w₁ w₁' hRun _ h₁ => ?_
    have hLayout := hRoom.layout archive hOwn hOwnApart
    rw [hRun] at hLayout
    exact convertDirectory_alike hConfig h₁ hRoot hOut hLayout (hCourse w₁ hRun)
  refine ⟨?_, ?_⟩
  · rw [convert_run, convert_run]
    exact hUnpacked.outcome
  · rw [convert_run, convert_run]
    exact Disk.SameOutside.remove hUnpacked.state fun n _ =>
      (workshop_isClear hHere hApart).avoids n

end Converter

end Coursebook
