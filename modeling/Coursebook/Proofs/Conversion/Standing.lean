import Coursebook.Proofs.Conversion.Frame
import Coursebook.Proofs.Conversion.Reach
import Coursebook.Proofs.Files.Unique

/-!
# Coursebook — what stands after a conversion

A conversion that succeeds leaves its output directory standing. Succeeded or not, all that it does
until the workshop is removed is a row of entries put in places, so it never lists a thing twice.

* `convertDirectory_makes`, `convert_makes` — the output directory.
* `convert_staysUnique` — listings.
-/

namespace Coursebook

open Files Media

variable {root out p : Path} {d d' : Disk} {w w' : World} {l : Location} {report : Report}

/-- A directory stays one on a disk that grows. -/
theorem Files.Disk.GrowsTo.entry_directory {made : Location → Prop}
    {written : Location → Content → Prop} (h : d.GrowsTo made written d')
    (hDir : d.entry p = .ok .directory) : d'.entry p = .ok .directory := by
  obtain ⟨hLocate, hFind⟩ := Disk.entry_eq_ok hDir
  exact Disk.entry_of_locate (h.locate hLocate) (h.directory hFind)

/-- Directories that have been made are there. -/
theorem Files.ensureDirectories_entry (h : (ensureDirectories p).run d = (.ok (), d')) :
    d'.entry p = .ok .directory := by
  obtain ⟨hLocate, hFind⟩ := ensureDirectories_reaches h
  exact Disk.entry_of_locate hLocate hFind

namespace Converter

theorem convertDirectory_makes (c : Converter)
    (h : (c.convertDirectory root out).run w = (.ok report, w')) :
    w'.disk.entry out = .ok .directory := by
  obtain ⟨-, document, markdownFile, copies, w₁, w₂, -, -, -, hWritten, hCopied⟩ :=
    c.convertDirectory_eq_ok h
  obtain ⟨-, d, hMade, hDocument⟩ := writeMarkdown_eq_ok hWritten
  have hWrite := write_grows d markdownFile (.ofText document.1) fun _ => False
  rw [hDocument] at hWrite
  have hCopy := copyAssets_grows c.config root out w₂
  rw [hCopied] at hCopy
  exact hCopy.entry_directory (hWrite.entry_directory (ensureDirectories_entry hMade))

theorem convertDirectory_edits (c : Converter) (root out : Path) (w : World) :
    w.disk.Edits (fun _ _ => True) ((c.convertDirectory root out).run w).2.disk := by
  have hKept : IsKept fun w w' => w.disk.Edits (fun _ _ => True) w'.disk :=
    ⟨.trans, fun _ _ => .refl⟩
  have hMake (p : Path) (w : World) :
      w.disk.Edits (fun _ _ => True) ((World.change (ensureDirectories p)).run w).2.disk :=
    (ensureDirectories_edits w.disk p).mono fun _ _ _ => trivial
  exact convertDirectory_keeps c hKept (hMake _)
    (fun _ w => (write_edits w.disk _ _).mono fun _ _ _ => trivial) (hMake _)
    fun _ _ _ _ w => (copy_edits w.disk _ _).mono fun _ _ _ => trivial

/-- The room for the workshop is not taken by directories that are made elsewhere. -/
theorem HasRoom.edited {allowed : Location → Entry → Prop}
    (h : HasRoom d) (hEdits : d.Edits allowed d')
    (hAllowed : ∀ l e, allowed l e → e = .directory ∧ ¬ d.place workshop <+: l) : HasRoom d' := by
  refine ⟨?_, fun x hx hBelow => ?_⟩
  · rw [hEdits.here_eq]
    rcases hEdits.find d.here with hSame | ⟨e, he, hFind⟩
    · exact hSame.trans h.here
    · rw [hFind, (hAllowed _ _ he).1]
  · -- what is in the workshop was there before or has been put there
    rw [hEdits.place] at hBelow
    rcases hEdits.mem hx with hBefore | hMade
    · exact h.free x hBefore hBelow
    · exact (hAllowed _ _ hMade).2 hBelow

variable {archive : Path}

theorem HasRoom.convertUnpacked_edits (h : HasRoom w.disk) (c : Converter) (archive out : Path) :
    w.disk.Edits (fun _ _ => True) ((c.convertUnpacked archive out).run (opened archive w)).2.disk := by
  have hOpened : w.disk.Edits _ (opened archive w).disk :=
    h.openWorkshop_edits.mono fun _ _ _ => trivial
  have hUnpacked : (opened archive w).disk.Edits (fun _ _ => True)
      ((Archive.unpack archive unpackedPath).run (opened archive w)).2.disk :=
    (h.unpack_edits archive).mono fun _ _ _ => trivial
  exact hOpened.trans (run_bind_keeps
    (R := fun (w w' : World) => w.disk.Edits (fun _ _ => True) w'.disk) .trans hUnpacked
    fun _ w₁ _ _ => c.convertDirectory_edits unpackedPath _ w₁)

theorem convert_staysUnique (c : Converter) (hRoom : HasRoom w.disk) (archive out : Path) :
    w.disk.StaysUnique ((c.convert archive out).run w).2.disk := by
  rw [convert_run]
  exact (hRoom.convertUnpacked_edits c archive out).staysUnique.trans
    (Disk.staysUnique_remove _ workshop)

/-- The workshop is removed from beside the output directory. -/
theorem convert_makes (c : Converter) (hRoom : HasRoom w.disk)
    (hUp : ".." ∉ (courseDirectory out archive).names)
    (hElse : ¬ w.disk.place workshop <+: w.disk.place (courseDirectory out archive))
    (h : (c.convert archive out).run w = (.ok report, w')) :
    w'.disk.entry (courseDirectory out archive) = .ok .directory := by
  have hEdits := hRoom.convertUnpacked_edits c archive out
  rw [convert_run] at h
  rcases hRun : (c.convertUnpacked archive out).run (opened archive w) with ⟨outcome, w₁⟩
  rw [hRun] at h hEdits
  cases h
  obtain ⟨_, w₂, -, hConverted⟩ := run_bind_eq_ok hRun
  have hPlace : w₁.disk.place workshop = w.disk.place workshop := hEdits.place workshop
  have hRemoved : w₁.disk.SameOutside w.disk.here [w.disk.place workshop]
      (w₁.disk.remove workshop) :=
    Disk.SameOutside.remove_of_covered hEdits.here_eq
      (covered_iff.mpr ⟨_, List.mem_singleton_self _, hPlace ▸ List.prefix_refl _⟩)
  have hAvoids : (courseDirectory out archive).Avoids w.disk.here [w.disk.place workshop] := by
    refine Path.avoids_of_down hUp fun k hk => ?_
    rw [List.mem_singleton.mp hk, ← Disk.SameOutside.place_eq rfl]
    exact hElse
  exact (hRemoved.entry hAvoids).trans (c.convertDirectory_makes hConverted)

end Converter

end Coursebook
