import Coursebook.Proofs.Archive.Edits
import Coursebook.Proofs.Conversion.Changes
import Coursebook.Proofs.Files.Apart

/-!
# Coursebook — what a conversion changes

A conversion of a course directory makes and writes at or below its output directory only, and that
of an archive besides in the directory that archives are unpacked in, which is gone afterwards. So
all else on the disk is as before, however the conversion ends.

* `convertDirectory_sameOutside` — a course directory.
* `convert_sameOutside` — an archive.
-/

namespace Coursebook

open Files Media

/-- Two worlds with disks that are the same outside some locations, whatever has been told. -/
def World.SameOutside (here : Location) (cones : List Location) (w w' : World) : Prop :=
  w.disk.SameOutside here cones w'.disk

/-- What stands below a location stands straight down from there. -/
def Files.Disk.IsPlainBelow (d : Disk) (l : Location) : Prop :=
  ∀ x ∈ d.tree.entries, l <+: x.1 → l.IsDown x.1

/-- What the settings call the document and the media directory are names of files. -/
structure Config.HasPlainNames (config : Config) : Prop where
  document : IsName config.markdownFile
  media : IsName config.mediaDir

variable {here : Location} {cones : List Location} {config : Config} {root out p : Path}
  {d d' : Disk} {w : World}

/-! ## Where things go -/

theorem Files.Disk.SameOutside.isPlainBelow {l : Location} (h : d.SameOutside here cones d')
    (hApart : Apart cones l) (hPlain : d.IsPlainBelow l) : d'.IsPlainBelow l := by
  rintro ⟨k, e⟩ hx ⟨names, rfl⟩
  exact hPlain _ (h.mem hx (hApart.not_covered names)) (List.prefix_append l names)

/-- What is listed below a path is named straight down from there. -/
theorem not_mem_of_mem_listAll (hPlain : d.IsPlainBelow (d.place p)) {x : List String × Entry}
    (hx : x ∈ d.listAll p) : x.1 ≠ [] ∧ ".." ∉ x.1 := by
  obtain ⟨hNames, l, hLocate, hMem⟩ := Disk.mem_listAll.mp hx
  rw [Disk.locate_eq_place hLocate] at hMem
  obtain ⟨names, hUp, hEq⟩ := hPlain _ hMem (List.prefix_append _ _)
  exact ⟨hNames, List.append_cancel_left hEq ▸ hUp⟩

theorem mediaPath_isWithin (hConfig : config.HasPlainNames) (out : Path) :
    (mediaPath config out).IsWithin out := by
  rw [mediaPath, child_of_isName out hConfig.media]
  exact Path.isWithin_below (List.cons_ne_nil _ _) (by simpa using hConfig.media.ne_up.symm)

theorem documentPath_isWithin (hConfig : config.HasPlainNames) (out : Path) :
    (out.child config.markdownFile).IsWithin out := by
  rw [child_of_isName out hConfig.document]
  exact Path.isWithin_below (List.cons_ne_nil _ _) (by simpa using hConfig.document.ne_up.symm)

/-- A copy stays in the output directory: even a degenerate name leads no further back than the media
directory is down. -/
theorem copyPath_isWithin (hConfig : config.HasPlainNames) (out : Path) (names : List String)
    {more : List String} (hMore : ".." ∉ more) :
    (((mediaPath config out).child (copyName names)).below more).IsWithin out := by
  rw [mediaPath, child_of_isName out hConfig.media,
    child_of_no_slash _ (not_mem_copyName (by decide) names)]
  refine ⟨config.mediaDir :: ((if copyName names = "" ∨ copyName names = "." then [] else
    [copyName names]) ++ more), List.cons_ne_nil _ _, ?_, by simp [Path.below, Path.join]⟩
  rw [staysIn, if_neg hConfig.media.ne_up]
  split
  · exact staysIn_of_not_mem hMore _
  · rw [List.singleton_append, staysIn]
    split
    · simpa using staysIn_of_not_mem hMore 0
    · exact staysIn_of_not_mem hMore _

/-- The name of a file below a directory is the last of those that lead there. -/
theorem not_mem_name_below {names : List String} (hNames : names ≠ [] ∧ ".." ∉ names) (p : Path) :
    ".." ∉ [(p.below names).name] := by
  have hLast : (p.below names).name = names.getLast hNames.1 := by
    rw [Path.name, Path.below_names, List.getLastD_eq_getLast?,
      List.getLast?_append_of_ne_nil _ hNames.1, List.getLast?_eq_some_getLast hNames.1]
    rfl
  rw [hLast, List.mem_singleton]
  exact fun hUp => hNames.2 (hUp ▸ List.getLast_mem hNames.1)

/-- The place of a copy is in the output directory also where there is a directory of its name. -/
theorem copyTarget_isWithin (hConfig : config.HasPlainNames) (d : Disk) (source out : Path)
    {names : List String} (hNames : names ≠ [] ∧ ".." ∉ names) :
    (d.copyTarget (source.below names) ((mediaPath config out).child (copyName names))).IsWithin
      out := by
  unfold Disk.copyTarget
  split
  · exact copyPath_isWithin hConfig out names (not_mem_name_below hNames source)
  · simpa [Path.below_nil] using copyPath_isWithin hConfig out names List.not_mem_nil

/-! ## Writing a course -/

/-- An output directory that only lacks what is at or below some locations. -/
structure IsOutput (here : Location) (cones : List Location) (out : Path) (d : Disk) : Prop where
  here_eq : d.here = here
  rests : out.RestsOn d cones
  covered : covered cones (d.place out) = true

theorem IsOutput.same (h : IsOutput here cones out d) (hSame : d.SameOutside here cones d') :
    IsOutput here cones out d' :=
  ⟨hSame.here_eq', h.rests.same hSame, hSame.place out ▸ h.covered⟩

theorem IsOutput.within (h : IsOutput here cones out d) (hp : p.IsWithin out) :
    IsOutput here cones p d := by
  obtain ⟨k, hk⟩ := hp.place d
  exact ⟨h.here_eq, h.rests.within h.covered hp, hk ▸ covered_append h.covered k⟩

/-- A course that can be converted: its output directory is apart from its static files, which stand
at plain names. -/
structure Layout (here : Location) (cones : List Location) (root out : Path) (d : Disk) : Prop where
  output : IsOutput here cones out d
  plain : d.IsPlainBelow (d.place (staticPath root))
  apart : Apart cones (d.place (staticPath root))

theorem Layout.same (h : Layout here cones root out d) (hSame : d.SameOutside here cones d') :
    Layout here cones root out d' := by
  have hPlace := hSame.place (staticPath root)
  exact ⟨h.output.same hSame, hPlace ▸ hSame.isPlainBelow h.apart h.plain, hPlace ▸ h.apart⟩

/-- The static files that are found have plain names. -/
theorem Layout.names (h : Layout here cones root out d) {kind : Entry → Bool} {names : List String}
    (hNames : names ∈ namesBelow d (staticPath root) kind) : names ≠ [] ∧ ".." ∉ names := by
  obtain ⟨e, hMem, -⟩ := mem_namesBelow.mp hNames
  exact not_mem_of_mem_listAll h.plain hMem

theorem World.SameOutside.trans {w₁ w₂ : World} (h : w.SameOutside here cones w₁)
    (h' : w₁.SameOutside here cones w₂) : w.SameOutside here cones w₂ :=
  Disk.SameOutside.trans h h'

/-- An output directory stays one, so what is the same outside after each change is so after all. -/
theorem sameOutside_isKept :
    IsKept fun w w' => IsOutput here cones out w.disk → w.SameOutside here cones w' where
  trans h h' hOut := (h hOut).trans (h' (hOut.same (h hOut)))
  quiet _ _ hOut := .refl cones hOut.here_eq

theorem makeOutput_sameOutside (hOut : IsOutput here cones out w.disk) :
    w.SameOutside here cones ((World.change (ensureDirectories out)).run w).2 :=
  ensureDirectories_sameOutside hOut.here_eq hOut.rests

theorem writeDocument_sameOutside (hConfig : config.HasPlainNames)
    (hOut : IsOutput here cones out w.disk) (text : String) :
    w.SameOutside here cones
      ((World.change (write (out.child config.markdownFile) (.ofText text))).run w).2 := by
  have hDocument := hOut.within (documentPath_isWithin hConfig out)
  exact write_sameOutside hDocument.here_eq hDocument.covered _

theorem writeMarkdown_sameOutside (hConfig : config.HasPlainNames)
    (hOut : IsOutput here cones out w.disk) (text : String) :
    w.SameOutside here cones ((writeMarkdown config out text).run w).2 :=
  writeMarkdown_keeps sameOutside_isKept (fun _ => makeOutput_sameOutside) text
    (fun _ hOut => writeDocument_sameOutside hConfig hOut text) hOut

theorem tryCopy_sameOutside (hConfig : config.HasPlainNames)
    (hOut : IsOutput here cones out w.disk) (source : Path) {names : List String}
    (hNames : names ≠ [] ∧ ".." ∉ names) :
    w.SameOutside here cones ((World.tryCopy (source.below names)
      ((mediaPath config out).child (copyName names))).run w).2 := by
  refine (copy_edits w.disk _ _).sameOutside hOut.here_eq ?_
  rintro l e ⟨rfl, -⟩
  exact (hOut.within (copyTarget_isWithin hConfig w.disk source out hNames)).covered

theorem convertDirectory_sameOutside (c : Converter) (hConfig : c.config.HasPlainNames)
    (h : Layout here cones root out w.disk) :
    w.SameOutside here cones ((c.convertDirectory root out).run w).2 := by
  refine convertDirectory_keeps c sameOutside_isKept (fun _ => makeOutput_sameOutside)
    (fun text _ hOut => writeDocument_sameOutside hConfig hOut text)
    (fun _ hOut => makeOutput_sameOutside (hOut.within (mediaPath_isWithin hConfig out)))
    (fun w₁ hSame names hNames _ hOut => ?_) h.output
  -- what is static has plain names whatever has been written
  exact tryCopy_sameOutside hConfig hOut _ ((h.same (hSame h.output)).names hNames)

/-! ## Converting an archive -/

theorem Files.Disk.IsPlainBelow.below {l : Location} (h : d.IsPlainBelow l) (names : List String) :
    d.IsPlainBelow (l ++ names) := by
  rintro ⟨k, e⟩ hx ⟨more, rfl⟩
  obtain ⟨all, hUp, hEq⟩ := h _ hx ((List.prefix_append l names).trans (List.prefix_append _ more))
  rw [List.append_assoc, List.append_cancel_left_eq] at hEq
  exact ⟨more, fun hMem => hUp (hEq ▸ List.mem_append_right names hMem), rfl⟩

theorem IsOutput.edited {allowed : Location → Entry → Prop} (h : IsOutput here cones out d)
    (hEdits : d.Edits allowed d') : IsOutput here cones out d' := by
  refine ⟨hEdits.here_eq.trans h.here_eq, fun n hNone => ?_, hEdits.place out ▸ h.covered⟩
  rw [hEdits.place] at hNone ⊢
  refine h.rests n ?_
  by_contra hSome
  exact hEdits.ne_none hSome hNone

namespace Converter

theorem workshop_eq : workshop = ⟨.relative, ["courseconverter_tmp"]⟩ := by decide

/-- The directory that an archive is unpacked into. -/
def unpackedPath : Path := workshop.child "extracted"

theorem unpackedPath_eq : unpackedPath = workshop.below ["extracted"] := by decide

/-- The directory that archives are unpacked in can be made, and nothing stands there. -/
structure HasRoom (d : Disk) : Prop where
  here : d.tree.find? d.here = some .directory
  free : ∀ x ∈ d.tree.entries, ¬ d.place workshop <+: x.1

theorem place_workshop (d : Disk) : d.place workshop = d.here ++ ["courseconverter_tmp"] := by
  rw [workshop_eq]
  rfl

/-- The way to the workshop starts in the working directory, and is one name long. -/
theorem place_workshop_upTo (d : Disk) (n : Nat) :
    d.place (workshop.upTo n) = if n = 0 then d.here else d.place workshop := by
  rw [workshop_eq]
  cases n with
  | zero => rfl
  | succ n =>
    unfold Path.upTo
    simp

theorem place_unpackedPath (d : Disk) :
    d.place unpackedPath = d.place workshop ++ ["extracted"] := by
  rw [unpackedPath_eq, Disk.place_join]
  rfl

theorem locate_workshop (h : d.tree.find? d.here = some .directory) :
    d.locate workshop = .ok (d.place workshop) := by
  rw [d.locate_eq_walk ⟨by decide, by decide⟩, place_workshop, workshop_eq]
  exact Tree.walk_singleton h (by decide) (by decide)

theorem HasRoom.locate (h : HasRoom d) : d.locate workshop = .ok (d.place workshop) :=
  locate_workshop h.here

theorem HasRoom.openWorkshop_eq (h : HasRoom d) :
    openWorkshop d = d.put (d.place workshop) .directory := by
  have hNone : d.tree.find? (d.place workshop) = none := by
    by_contra hSome
    obtain ⟨e, he⟩ := Option.ne_none_iff_exists'.mp hSome
    have hTop : d.place workshop ≠ [] := by simp [place_workshop]
    exact h.free _ (Tree.mem_entries_of_find? hTop he) (List.prefix_refl _)
  rw [openWorkshop, Disk.makeDirectory_eq_ok.mpr ⟨_, h.locate, hNone, rfl⟩]

theorem HasRoom.leadsDown (h : HasRoom d) : workshop.LeadsDown d (d.place workshop) := by
  have hSelf : (d.place workshop).IsDown (d.place workshop) :=
    ⟨[], List.not_mem_nil, (List.append_nil _).symm⟩
  refine ⟨hSelf, fun n hNone => ?_⟩
  rw [place_workshop_upTo] at hNone ⊢
  split
  · rw [if_pos ‹_›, h.here] at hNone
    cases hNone
  · exact hSelf

theorem HasRoom.openWorkshop_edits (h : HasRoom d) :
    d.Edits (fun l _ => (d.place workshop).IsDown l) (openWorkshop d) := by
  rw [h.openWorkshop_eq]
  exact .single (by simp [place_workshop]) h.leadsDown.place

/-- The disk and the notices that an archive is unpacked from. -/
def opened (archive : Path) (w : World) : World :=
  ⟨openWorkshop w.disk, w.notices ++ [.openingArchive archive.name]⟩

/-- Whether or not it succeeds, unpacking puts everything straight down from the workshop. -/
theorem HasRoom.unpack_edits (h : HasRoom w.disk) (archive : Path) :
    (opened archive w).disk.Edits (fun l _ => (w.disk.place workshop).IsDown l)
      ((Archive.unpack archive unpackedPath).run (opened archive w)).2.disk := by
  have hWay : unpackedPath.LeadsDown (opened archive w).disk (w.disk.place workshop) := by
    rw [unpackedPath_eq]
    exact (h.leadsDown.edited h.openWorkshop_edits).below (by decide)
  exact Archive.unpack_edits archive hWay

/-- What has been put into the workshop is all that stands there. -/
theorem HasRoom.isPlainBelow (h : HasRoom d)
    (hEdits : d.Edits (fun l _ => (d.place workshop).IsDown l) d') :
    d'.IsPlainBelow (d.place workshop) := by
  intro x hx hBelow
  rcases hEdits.mem hx with hBefore | hDown
  · exact absurd hBelow (h.free x hBefore)
  · exact hDown

/-- Unpacks an archive and converts the course in it. -/
def convertUnpacked (c : Converter) (archive out : Path) : Step World Report := do
  Archive.unpack archive unpackedPath
  c.convertDirectory unpackedPath (courseDirectory out archive)

theorem convert_run (c : Converter) (archive out : Path) (w : World) :
    (c.convert archive out).run w =
      let unpacked := (c.convertUnpacked archive out).run (opened archive w)
      (unpacked.1, ⟨unpacked.2.disk.remove workshop, unpacked.2.notices⟩) := rfl

theorem place_static (d : Disk) :
    d.place (staticPath unpackedPath) = d.place workshop ++ ["extracted", "static"] := by
  have hPath : staticPath unpackedPath = workshop.below ["extracted", "static"] := by decide
  rw [hPath, Disk.place_join, Location.follow_eq_append (by decide)]

/-- What an archive has been unpacked to can be converted. -/
theorem HasRoom.layout (hRoom : HasRoom w.disk) (archive : Path) {directory : Path}
    (hOut : IsOutput here cones directory w.disk) (hApart : Apart cones (w.disk.place workshop)) :
    Layout here cones unpackedPath directory
      ((Archive.unpack archive unpackedPath).run (opened archive w)).2.disk := by
  have hEdits := hRoom.openWorkshop_edits.trans (hRoom.unpack_edits archive)
  have hPlace := (hEdits.place (staticPath unpackedPath)).trans (place_static w.disk)
  exact ⟨hOut.edited hEdits, hPlace ▸ (hRoom.isPlainBelow hEdits).below _, hPlace ▸ hApart.below _⟩

/-- Before the workshop is removed, it holds all that has come up outside the output directory. -/
theorem convertUnpacked_sameOutside (c : Converter) (hConfig : c.config.HasPlainNames)
    (hRoom : HasRoom w.disk) {archive : Path}
    (hOut : IsOutput here cones (courseDirectory out archive) w.disk)
    (hApart : Apart cones (w.disk.place workshop)) :
    w.SameOutside here (w.disk.place workshop :: cones)
      ((c.convertUnpacked archive out).run (opened archive w)).2 := by
  have hIn (l : Location) (hl : (w.disk.place workshop).IsDown l) :
      covered (w.disk.place workshop :: cones) l = true := by
    obtain ⟨names, -, rfl⟩ := hl
    exact covered_iff.mpr ⟨_, List.mem_cons_self, List.prefix_append _ _⟩
  have hOpened : w.disk.Edits _ (opened archive w).disk := hRoom.openWorkshop_edits
  have hHere := hOpened.here_eq.trans hOut.here_eq
  have hUnpacked : World.SameOutside here (w.disk.place workshop :: cones) (opened archive w)
      ((Archive.unpack archive unpackedPath).run (opened archive w)).2 :=
    (hRoom.unpack_edits archive).sameOutside hHere fun l _ => hIn l
  refine Disk.SameOutside.trans (hOpened.sameOutside hOut.here_eq fun l _ => hIn l)
    (run_bind_keeps .trans hUnpacked fun _ w₁ hRun _ => ?_)
  have hLayout := hRoom.layout archive hOut hApart
  rw [hRun] at hLayout
  exact Disk.SameOutside.mono (convertDirectory_sameOutside c hConfig hLayout)
    (List.subset_cons_self _ _)

/--
**An archive is converted into its output directory.** Nothing else has changed on the disk after the
conversion, whatever the archive holds and however the conversion ends.
-/
theorem convert_sameOutside (c : Converter) (hConfig : c.config.HasPlainNames)
    (hRoom : HasRoom w.disk) {archive : Path}
    (hOut : IsOutput here cones (courseDirectory out archive) w.disk)
    (hApart : Apart cones (w.disk.place workshop)) :
    w.SameOutside here cones ((c.convert archive out).run w).2 := by
  have hInside := c.convertUnpacked_sameOutside hConfig hRoom hOut hApart
  rw [convert_run]
  dsimp only
  generalize ((c.convertUnpacked archive out).run (opened archive w)).2 = w₁ at hInside
  have hPlace : w₁.disk.place workshop = w.disk.place workshop := Disk.SameOutside.place hInside _
  have hWorkshop : covered (w.disk.place workshop :: cones) (w₁.disk.place workshop) = true :=
    covered_iff.mpr ⟨_, List.mem_cons_self, hPlace ▸ List.prefix_refl _⟩
  have hRemoved := Disk.SameOutside.trans hInside
    (Disk.SameOutside.remove_of_covered hInside.here_eq' hWorkshop)
  -- nothing is left of the workshop, as nothing has stood there
  refine Disk.SameOutside.of_clear hRemoved hRoom.free fun x hx => ?_
  have hLocate : w₁.disk.locate workshop = .ok (w.disk.place workshop) := by
    refine (Disk.SameOutside.locate_of_above hInside fun n hn => ?_).trans hRoom.locate
    rw [← Disk.SameOutside.place_eq hOut.here_eq, place_workshop_upTo]
    rw [workshop_eq, List.length_singleton, Nat.lt_one_iff] at hn
    rw [if_pos hn, not_covered_iff, List.forall_mem_cons]
    constructor
    · intro hAbove
      have hLength := hAbove.length_le
      simp [place_workshop] at hLength
    · intro k hk hAbove
      exact (hApart k hk).1 (hAbove.trans (place_workshop w.disk ▸ List.prefix_append _ _))
  unfold Disk.remove at hx
  rw [hLocate] at hx
  simpa [← List.isPrefixOf_iff_prefix] using (List.mem_filter.mp hx).2

end Converter

end Coursebook
