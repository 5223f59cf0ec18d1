import Coursebook.Proofs.Conversion.Frame

/-!
# Coursebook — the output directory of a conversion

A conversion that fails early has not come to its output directory; one that has come there has made
it first. So what is found in place of the directory is never a file, nor something with no directory
around it, unless it has been there before.

* `ensureDirectories_makesOrLeaves`, `write_makesOrLeaves` — the changes of a disk.
* `convertDirectory_makesOrLeaves`, `convert_makesOrLeaves` — conversions.
-/

namespace Coursebook

open Files Media

variable {here : Location} {cones : List Location} {config : Config} {root out p : Path}
  {d d' : Disk} {w : World} {t t₁ t₂ : Tree} {k l : Location} {e : Entry}

namespace Files

/-- There is a directory at a location, or nothing at all, also below. -/
def Tree.IsDirectoryOrNothing (t : Tree) (l : Location) : Prop :=
  t.find? l = some .directory ∨ t.HasNothing l

/-- After a change there is a directory at a location, or the same as before, also below. -/
def Tree.MakesOrLeaves (t : Tree) (l : Location) (t' : Tree) : Prop :=
  t'.find? l = some .directory ∨ ∀ names, t'.find? (l ++ names) = t.find? (l ++ names)

namespace Tree.MakesOrLeaves

theorem refl (t : Tree) (l : Location) : t.MakesOrLeaves l t := .inr fun _ => rfl

theorem trans (h : t.MakesOrLeaves l t₁) (h' : t₁.MakesOrLeaves l t₂) : t.MakesOrLeaves l t₂ := by
  rcases h' with hMade | hLeft
  · exact .inl hMade
  · rcases h with hMade | hBefore
    · have hSelf := hLeft []
      rw [List.append_nil, hMade] at hSelf
      exact .inl hSelf
    · exact .inr fun names => (hLeft names).trans (hBefore names)

theorem isDirectoryOrNothing (h : t.MakesOrLeaves l t₁) (hBefore : t.IsDirectoryOrNothing l) :
    t₁.IsDirectoryOrNothing l := by
  rcases h with hMade | hLeft
  · exact .inl hMade
  · rcases hBefore with hDir | hNothing
    · have hSelf := hLeft []
      rw [List.append_nil, hDir] at hSelf
      exact .inl hSelf
    · exact .inr fun names => (hLeft names).trans (hNothing names)

/-- An entry put elsewhere leaves a directory as it is. -/
theorem of_directory (hDir : t.find? l = some .directory) (hk : k ≠ []) (hElse : l ≠ k) :
    t.MakesOrLeaves l (t.put k e) := by
  refine .inl ?_
  rw [Tree.find?_put _ _ _ _ hk, if_neg hElse, hDir]

end Tree.MakesOrLeaves

/-- What happens apart from a location leaves it alone. -/
theorem Disk.SameOutside.makesOrLeaves (h : d.SameOutside here cones d') (hApart : Apart cones l) :
    d.tree.MakesOrLeaves l d'.tree :=
  .inr fun names => h.find? (hApart.not_covered names)

/-! ## Changes of a disk -/

theorem ensureDirectory_makesOrLeaves (d : Disk) (p : Path) (n : Nat) :
    d.tree.MakesOrLeaves (d.place (p.upTo n)) ((ensureDirectory p).run d).2.tree := by
  rw [ensureDirectory_run]
  split
  · rename_i d' hMake
    obtain ⟨l, hLocate, hNone, rfl⟩ := Disk.makeDirectory_eq_ok.mp hMake
    have hTop : l ≠ [] := Tree.ne_nil_of_find? (hNone.trans_ne (by simp))
    have hMade : (d.put l .directory).tree.find? l = some .directory := d.find?_put_self hTop _
    -- the directory itself is made, and those on the way to it have been there
    rcases Nat.lt_or_ge n p.names.length with hn | hn
    · have hDir := Disk.directory_of_locate hLocate hn
      refine .of_directory hDir hTop ?_
      rintro rfl
      rw [hNone] at hDir
      cases hDir
    · rw [Path.upTo_of_length_le hn, ← Disk.locate_eq_place hLocate]
      exact .inl hMade
  · exact .refl _ _
  · split <;> exact .refl _ _

/-- Of the directories on the way to a path, each is made or left alone. -/
theorem ensureDirectories_makesOrLeaves (d : Disk) {p : Path} (hUp : ".." ∉ p.names) (n : Nat) :
    d.tree.MakesOrLeaves (d.place (p.upTo n)) ((ensureDirectories p).run d).2.tree := by
  refine (ensureDirectories_keeps (R := fun p d d' => d'.here = d.here ∧
      (".." ∉ p.names → ∀ n, d.tree.MakesOrLeaves (d.place (p.upTo n)) d'.tree))
    (fun _ d => ⟨rfl, fun _ _ => .refl d.tree _⟩) (fun {p d d₁ d₂} h h' => ?_) (fun p d => ?_)
    (fun p d hNames h => ⟨h.1, fun hUp n => ?_⟩) p d).2 hUp n
  · exact ⟨h'.1.trans h.1, fun hUp n => (h.2 hUp n).trans (Disk.place_congr h.1 _ ▸ h'.2 hUp n)⟩
  · exact ⟨(ensureDirectory_edits d p).here_eq, fun _ n => ensureDirectory_makesOrLeaves d p n⟩
  · rcases Nat.lt_or_ge n p.names.length with hn | hn
    · have hBefore := h.2 (fun hIn => hUp (List.dropLast_subset _ hIn)) n
      rwa [p.upTo_parent, Nat.min_eq_left (Nat.le_sub_one_of_lt hn)] at hBefore
    · -- the directories around are all above
      refine .inr fun names => (ensureDirectories_edits d p.parent).find_eq ?_
      rintro e ⟨⟨⟨m, hm⟩, -⟩, -⟩
      have hLength := congrArg List.length hm
      have hPos := List.length_pos_iff.mpr hNames
      rw [Path.upTo_of_length_le hn, p.upTo_parent, List.length_append, d.length_place hUp,
        d.length_place_upTo hUp] at hLength
      omega

/-- A file is written into a directory only where that is one. -/
theorem write_makesOrLeaves (d : Disk) (hp : p.IsWithin out) (c : Content) :
    d.tree.MakesOrLeaves (d.place out) ((write p c).run d).2.tree := by
  rw [write_run]
  split
  · exact .refl _ _
  · rename_i l hLocate
    split
    · exact .refl _ _
    · rename_i hNot
      obtain ⟨names, hNames, -, rfl⟩ := hp
      have hn : out.names.length < (out.join ⟨.relative, names⟩).names.length := by
        have hPos := List.length_pos_iff.mpr hNames
        simp only [Path.join, List.length_append]
        omega
      have hDir := Disk.directory_of_locate hLocate hn
      have hUpTo : (out.join ⟨.relative, names⟩).upTo out.names.length = out := by
        simp [Path.upTo, Path.join]
      rw [hUpTo] at hDir
      refine .of_directory hDir (Tree.ne_nil_of_find? hNot) ?_
      rintro rfl
      exact hNot hDir

end Files

/-! ## Conversions -/

namespace Converter

theorem convertDirectory_makesOrLeaves (c : Converter) (hConfig : c.config.HasPlainNames)
    (hUp : ".." ∉ out.names) (h : Layout here cones root out w.disk) :
    w.disk.tree.MakesOrLeaves (w.disk.place out)
      ((c.convertDirectory root out).run w).2.disk.tree := by
  -- what is static has plain names only as long as nothing else is touched
  let R (w w' : World) : Prop := IsOutput here cones out w.disk →
    w.SameOutside here cones w' ∧ w.disk.tree.MakesOrLeaves (w.disk.place out) w'.disk.tree
  have hKept : IsKept R := by
    refine ⟨fun h h' hOut => ?_, fun w _ hOut => ⟨.refl cones hOut.here_eq, .refl _ _⟩⟩
    obtain ⟨hSame, hFirst⟩ := h hOut
    obtain ⟨hSame', hSecond⟩ := h' (hOut.same hSame)
    rw [Disk.SameOutside.place hSame] at hSecond
    exact ⟨hSame.trans hSame', hFirst.trans hSecond⟩
  have hMedia : ".." ∉ (mediaPath c.config out).names ∧
      (mediaPath c.config out).upTo out.names.length = out := by
    rw [mediaPath, child_of_isName out hConfig.media, Path.upTo_below_of_le le_rfl,
      Path.upTo_length]
    simpa using ⟨hUp, hConfig.media.ne_up.symm⟩
  refine (convertDirectory_keeps c hKept (fun w hOut => ⟨makeOutput_sameOutside hOut, ?_⟩)
    (fun text w hOut => ⟨writeDocument_sameOutside hConfig hOut text, ?_⟩)
    (fun w hOut => ⟨makeOutput_sameOutside (hOut.within (mediaPath_isWithin hConfig out)), ?_⟩)
    (fun w₁ hSame names hNames w₂ hOut => ?_) h.output).2
  · have hMade := ensureDirectories_makesOrLeaves w.disk hUp out.names.length
    rwa [out.upTo_length] at hMade
  · exact write_makesOrLeaves w.disk (documentPath_isWithin hConfig out) _
  · have hMade := ensureDirectories_makesOrLeaves w.disk hMedia.1 out.names.length
    rwa [hMedia.2] at hMade
  · have hPlain := (h.same (hSame h.output).1).names hNames
    refine ⟨tryCopy_sameOutside hConfig hOut _ hPlain, ?_⟩
    show w₂.disk.tree.MakesOrLeaves (w₂.disk.place out) ((copy _ _).run w₂.disk).2.tree
    rw [copy_run]
    split
    · exact .refl _ _
    · split
      · exact .refl _ _
      · exact write_makesOrLeaves w₂.disk (copyTarget_isWithin hConfig w₂.disk _ out hPlain) _

/-- The output directory of an archive's course is made or left alone, however the conversion
ends. -/
theorem convert_makesOrLeaves (c : Converter) (hConfig : c.config.HasPlainNames)
    (hRoom : HasRoom w.disk) {archive : Path} (hUp : ".." ∉ (courseDirectory out archive).names)
    (hOut : IsOutput here cones (courseDirectory out archive) w.disk)
    (hApart : Apart cones (w.disk.place workshop)) :
    w.disk.tree.MakesOrLeaves (w.disk.place (courseDirectory out archive))
      ((c.convert archive out).run w).2.disk.tree := by
  -- the workshop is elsewhere: what happens there leaves the output directory alone
  have hElse : Apart [w.disk.place workshop] (w.disk.place (courseDirectory out archive)) := by
    obtain ⟨k, hk, names, hNames⟩ := covered_iff.mp hOut.covered
    rw [← hNames]
    refine Apart.below (Apart.symm ?_) names
    exact List.forall_mem_singleton.mpr (hApart k hk)
  have hCovered (l : Location) (hl : (w.disk.place workshop).IsDown l) :
      covered [w.disk.place workshop] l = true := by
    obtain ⟨names, -, rfl⟩ := hl
    exact covered_append (covered_iff.mpr ⟨_, List.mem_singleton_self _, List.prefix_refl _⟩) names
  have hOpened : w.SameOutside here [w.disk.place workshop] (opened archive w) :=
    hRoom.openWorkshop_edits.sameOutside hOut.here_eq fun l _ => hCovered l
  have hUnpacked := (hRoom.unpack_edits archive).sameOutside (Disk.SameOutside.here_eq' hOpened)
    fun l _ => hCovered l
  have hBefore : w.SameOutside here [w.disk.place workshop]
      ((Archive.unpack archive unpackedPath).run (opened archive w)).2 := hOpened.trans hUnpacked
  -- an archive that cannot be unpacked ends the conversion before it comes to its output directory
  have hConverted : w.disk.tree.MakesOrLeaves (w.disk.place (courseDirectory out archive))
      ((c.convertUnpacked archive out).run (opened archive w)).2.disk.tree ∧
      ((c.convertUnpacked archive out).run (opened archive w)).2.disk.here = here := by
    rw [convertUnpacked, run_bind]
    rcases hRun : (Archive.unpack archive unpackedPath).run (opened archive w) with ⟨outcome, w₁⟩
    rw [hRun] at hBefore
    cases outcome with
    | error e => exact ⟨hBefore.makesOrLeaves hElse, Disk.SameOutside.here_eq' hBefore⟩
    | ok _ =>
      have hLayout := hRoom.layout archive hOut hApart
      rw [hRun] at hLayout
      have hMade := c.convertDirectory_makesOrLeaves hConfig hUp hLayout
      rw [Disk.SameOutside.place hBefore] at hMade
      exact ⟨(hBefore.makesOrLeaves hElse).trans hMade,
        Disk.SameOutside.here_eq' (convertDirectory_sameOutside c hConfig hLayout)⟩
  rw [convert_run]
  obtain ⟨hMade, hHere⟩ := hConverted
  have hWorkshop : covered [w.disk.place workshop]
      (((c.convertUnpacked archive out).run (opened archive w)).2.disk.place workshop) = true := by
    rw [Disk.place_congr (hHere.trans hOut.here_eq.symm)]
    exact covered_iff.mpr ⟨_, List.mem_singleton_self _, List.prefix_refl _⟩
  exact hMade.trans ((Disk.SameOutside.remove_of_covered hHere hWorkshop).makesOrLeaves hElse)

end Converter

end Coursebook
