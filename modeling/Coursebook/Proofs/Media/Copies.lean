import Mathlib.Data.List.Dedup
import Coursebook.Proofs.Conversion.World
import Coursebook.Proofs.Files.Edits
import Coursebook.Proofs.Files.Listing
import Coursebook.Proofs.Files.Making
import Coursebook.Proofs.Media.FileName

/-!
# Coursebook — copies in the media directory

While static files are copied, the media directory holds files only (`IsFlat`), so a copy with a
name of its own goes right into it. What copying makes of a disk is a row of files put there, one for
each copy (`putCopies`): the last one of a name stays.

* `copyFiles_made` — what a run of copies has put, whatever could not be copied.
* `copyFiles_all` — where every file can be read, what is too long is all that is left out.
* `find?_putCopies_last`, `names_putCopies` — what the media directory holds then.
-/

namespace Coursebook.Media

open Coursebook.Files

/-! ## The media directory -/

/-- A directory that has been reached and has no directory in it. -/
structure IsFlat (d : Disk) (media : Path) (m : Location) : Prop where
  reached : d.locate media = .ok m
  directory : d.tree.find? m = some .directory
  flat : ∀ names, names ≠ [] → d.tree.find? (m ++ names) ≠ some .directory

/-- Whether the name and the path of a copy are short enough for the system. -/
def fits (media : Path) (names : List String) : Bool :=
  !isLongName (copyName names) && !isLongPath (toString (media.below [copyName names]))

namespace IsFlat

variable {d : Disk} {media : Path} {m : Location} {names : List String}

theorem put (h : IsFlat d media m) (name : String) (c : Content) :
    IsFlat (d.put (m ++ [name]) (.file c)) media m := by
  have hNot : d.tree.find? (m ++ [name]) ≠ some .directory := h.flat _ (List.cons_ne_nil _ _)
  have hGrows : d.GrowsTo (fun _ => False) (fun _ _ => True) (d.put (m ++ [name]) (.file c)) :=
    Disk.grows_put_file trivial hNot
  refine ⟨hGrows.locate h.reached, hGrows.directory h.directory, fun names hNames => ?_⟩
  rw [Disk.put, Tree.find?_put _ _ _ _ (by simp)]
  split
  · simp
  · exact h.flat names hNames

/-- A copy has its place in the media directory, unless it is too long. -/
theorem locate_copy (h : IsFlat d media m) (hName : copyName names ∉ degenerateNames) :
    d.locate (media.below [copyName names]) =
      if fits media names then .ok (m ++ [copyName names]) else .error .nameTooLong := by
  have hNull : '\x00' ∉ (copyName names).toList := not_mem_copyName (by decide) names
  have hReached := Disk.isWritable_of_locate h.reached
  cases hLong : isLongPath (toString (media.below [copyName names])) with
  | false =>
    have hWritable : (media.below [copyName names]).IsWritable :=
      hReached.below (by simpa using hNull) hLong
    cases hShort : isLongName (copyName names) with
    | false =>
      rw [Disk.locate_below_singleton h.reached h.directory (isName_copyName hName hShort) hWritable]
      simp [fits, hLong, hShort]
    | true =>
      have hUp : copyName names ≠ ".." := fun hUp => hName (by simp [degenerateNames, hUp])
      rw [Disk.locate_below h.reached hWritable, Tree.walk, h.directory]
      simp [fits, hShort, hUp]
  | true =>
    have hFree : (toString (media.below [copyName names])).contains '\x00' = false := by
      rw [String.contains_char_eq, decide_eq_false_iff_not]
      exact Path.null_not_mem_below hReached.1 (by simpa using hNull)
    simp [Disk.locate, hFree, hLong, fits]

/-- No directory is in the way of a copy. -/
theorem copyTarget_eq (h : IsFlat d media m) (hName : copyName names ∉ degenerateNames)
    (source : Path) :
    d.copyTarget source (media.child (copyName names)) = media.below [copyName names] := by
  have hLocate := h.locate_copy hName
  have hFlat : d.tree.find? (m ++ [copyName names]) ≠ some .directory :=
    h.flat _ (List.cons_ne_nil _ _)
  rw [child_copyName media hName]
  unfold Disk.copyTarget Disk.isDirectory Disk.ask Disk.entry
  rw [hLocate]
  cases fits media names with
  | false => rfl
  | true =>
    cases hFind : d.tree.find? (m ++ [copyName names]) with
    | none => simp [hFind]
    | some e =>
      cases e with
      | directory => exact absurd hFind hFlat
      | file c => simp [hFind]

/-- A copy is put under its name, or fails and changes nothing. -/
theorem copy_run (h : IsFlat d media m) (hName : copyName names ∉ degenerateNames)
    (source : Path) :
    (copy source (media.child (copyName names))).run d =
      if d.same source (media.below [copyName names]) then
        (.error (.same source (media.below [copyName names])), d)
      else
        match d.read source with
        | .error e => (.error (.file e), d)
        | .ok c =>
          if fits media names then (.ok (), d.put (m ++ [copyName names]) (.file c))
          else (.error (.file ⟨.nameTooLong, media.below [copyName names]⟩), d) := by
  have hFlat : d.tree.find? (m ++ [copyName names]) ≠ some .directory :=
    h.flat _ (List.cons_ne_nil _ _)
  rw [Files.copy_run, h.copyTarget_eq hName]
  split
  · rfl
  · cases d.read source with
    | error e => rfl
    | ok c =>
      dsimp only
      rw [write_run, h.locate_copy hName]
      cases fits media names with
      | false => rfl
      | true =>
        simp only [if_true]
        rfl

theorem copy_cases (h : IsFlat d media m) (hName : copyName names ∉ degenerateNames)
    (source : Path) :
    (∃ e, (copy source (media.child (copyName names))).run d = (.error e, d)) ∨
    fits media names = true ∧ ∃ c, (copy source (media.child (copyName names))).run d =
      (.ok (), d.put (m ++ [copyName names]) (.file c)) := by
  rw [h.copy_run hName]
  split
  · exact .inl ⟨_, rfl⟩
  · cases d.read source with
    | error e => exact .inl ⟨_, rfl⟩
    | ok c =>
      cases fits media names with
      | false => exact .inl ⟨_, rfl⟩
      | true => exact .inr ⟨rfl, c, rfl⟩

end IsFlat

/-! ## Files put one after the other -/

/-- The disk with copies put at a location, one after the other: each is named for the static file
that it is of, and holds something. -/
def putCopies (m : Location) (made : List (List String × Content)) (d : Disk) : Disk :=
  made.foldl (fun d x => d.put (m ++ [copyName x.1]) (.file x.2)) d

section

variable {m : Location} {made : List (List String × Content)} {d : Disk}

theorem putCopies_edits (m : Location) (made : List (List String × Content)) (d : Disk) :
    d.Edits (fun l e => ∃ x ∈ made, l = m ++ [copyName x.1] ∧ e = .file x.2)
      (putCopies m made d) := by
  induction made generalizing d with
  | nil => exact .refl
  | cons x r ih =>
    refine (Disk.Edits.single (by simp) ⟨x, List.mem_cons_self, rfl, rfl⟩).trans ((ih _).mono ?_)
    rintro l e ⟨y, hy, hPut⟩
    exact ⟨y, List.mem_cons_of_mem x hy, hPut⟩

theorem isFlat_putCopies {media : Path} (h : IsFlat d media m)
    (made : List (List String × Content)) : IsFlat (putCopies m made d) media m := by
  induction made generalizing d with
  | nil => exact h
  | cons x r ih => exact ih (h.put _ _)

theorem putCopies_grows {media : Path} (h : IsFlat d media m)
    (made : List (List String × Content)) :
    d.GrowsTo (fun _ => False) (fun _ _ => True) (putCopies m made d) := by
  induction made generalizing d with
  | nil => exact .refl d
  | cons x r ih =>
    exact (Disk.grows_put_file trivial (h.flat _ (List.cons_ne_nil _ _))).trans (ih (h.put _ _))

/-- Under the name of every copy there is a file. -/
theorem find?_putCopies_of_mem {x : List String × Content} (hx : x ∈ made) :
    ∃ c, (putCopies m made d).tree.find? (m ++ [copyName x.1]) = some (.file c) := by
  obtain ⟨before, after, rfl⟩ := List.append_of_mem hx
  rw [putCopies, List.foldl_append, List.foldl_cons]
  rcases (putCopies_edits m after _).find (m ++ [copyName x.1]) with hSame | ⟨e, ⟨y, -, -, rfl⟩, hPut⟩
  · exact ⟨x.2, hSame.trans (Disk.find?_put_self _ (by simp) _)⟩
  · exact ⟨y.2, hPut⟩

end

/-! ## Runs of copies -/

section

variable {source media : Path} {m : Location} {names : List String} {files : List (List String)}

theorem copyFiles_cons_run (source media : Path) (names : List String) (r : List (List String))
    (w : World) :
    (copyFiles source media (names :: r)).run w =
      match w.disk.isFile (source.below names) with
      | .error e => (.error (.file e), w)
      | .ok false => (copyFiles source media r).run w
      | .ok true =>
        match (copy (source.below names) (media.child (copyName names))).run w.disk with
        | (.error e, d) => (copyFiles source media r).run
            ⟨d, w.notices ++ [.failedCopy ("/".intercalate names) e.message]⟩
        | (.ok _, d) =>
          let rest := (copyFiles source media r).run ⟨d, w.notices⟩
          (rest.1.map (copyName names :: ·), rest.2) := by
  rw [copyFiles]
  dsimp only
  rw [run_bind, World.ask_run]
  cases w.disk.isFile (source.below names) with
  | error e => rfl
  | ok isFile =>
    cases isFile with
    | false => rfl
    | true =>
      simp only [mapError_ok, if_true]
      rw [run_bind, World.tryCopy_run]
      obtain ⟨outcome, d⟩ := (copy (source.below names) (media.child (copyName names))).run w.disk
      cases outcome with
      | error e => rfl
      | ok _ =>
        dsimp only
        rw [run_bind]
        obtain ⟨rest, w'⟩ := (copyFiles source media r).run ⟨d, w.notices⟩
        cases rest <;> rfl

/-- A run of copies puts one file into the media directory for each copy that it tells of. -/
theorem copyFiles_made {w w' : World} {copies : List String} (h : IsFlat w.disk media m)
    (hNames : ∀ names ∈ files, copyName names ∉ degenerateNames)
    (hRun : (copyFiles source media files).run w = (.ok copies, w')) :
    ∃ made, (made.map (·.1)).Sublist files ∧ (∀ x ∈ made, fits media x.1 = true) ∧
      copies = made.map (fun x => copyName x.1) ∧ w'.disk = putCopies m made w.disk := by
  induction files generalizing w copies with
  | nil =>
    cases hRun
    exact ⟨[], .slnil, by simp, rfl, rfl⟩
  | cons names r ih =>
    have hName := hNames names List.mem_cons_self
    have hRest : ∀ names ∈ r, copyName names ∉ degenerateNames := fun k hk =>
      hNames k (List.mem_cons_of_mem names hk)
    rw [copyFiles_cons_run] at hRun
    split at hRun
    · cases hRun
    · obtain ⟨made, hSublist, hFits, hCopies, hDisk⟩ := ih h hRest hRun
      exact ⟨made, hSublist.cons names, hFits, hCopies, hDisk⟩
    · rcases h.copy_cases hName (source.below names) with ⟨e, hCopy⟩ | ⟨hThis, c, hCopy⟩
      · rw [hCopy] at hRun
        have hSame : IsFlat (World.mk w.disk (w.notices ++
            [.failedCopy ("/".intercalate names) e.message])).disk media m := h
        obtain ⟨made, hSublist, hFits, hCopies, hDisk⟩ := ih hSame hRest hRun
        exact ⟨made, hSublist.cons names, hFits, hCopies, hDisk⟩
      · rw [hCopy] at hRun
        dsimp only at hRun
        cases hOutcome : ((copyFiles source media r).run
            ⟨w.disk.put (m ++ [copyName names]) (.file c), w.notices⟩).1 with
        | error e =>
          rw [hOutcome] at hRun
          cases hRun
        | ok rest =>
          rw [hOutcome] at hRun
          obtain ⟨made, hSublist, hFits, hCopies, hDisk⟩ :=
            ih (h.put _ _) hRest (Prod.ext hOutcome (Prod.mk.inj hRun).2)
          refine ⟨(names, c) :: made, hSublist.cons_cons names,
            List.forall_mem_cons.mpr ⟨hThis, hFits⟩, ?_, hDisk⟩
          rw [← Except.ok.inj (Prod.mk.inj hRun).1, hCopies]
          rfl

/-- A file away from a location: it is reached there, and it is not the location or below. -/
structure IsSource (d : Disk) (m : Location) (p : Path) (c : Content) : Prop where
  file : d.entry p = .ok (.file c)
  apart : ¬ m <+: d.place p

theorem IsSource.put {d : Disk} {p : Path} {c : Content} (h : IsSource d m p c)
    (hFlat : IsFlat d media m) (name : String) (c' : Content) :
    IsSource (d.put (m ++ [name]) (.file c')) m p c := by
  have hNot : d.tree.find? (m ++ [name]) ≠ some .directory := hFlat.flat _ (List.cons_ne_nil _ _)
  have hGrows : d.GrowsTo (fun _ => False) (fun l _ => l = m ++ [name])
      (d.put (m ++ [name]) (.file c')) :=
    Disk.grows_put_file rfl hNot
  obtain ⟨hFile, hApart⟩ := h
  refine ⟨?_, by rwa [hGrows.place]⟩
  unfold Disk.entry at hFile ⊢
  cases hLocate : d.locate p with
  | error fault => simp [hLocate] at hFile
  | ok l =>
    have hElse : l ≠ m ++ [name] := by
      rintro rfl
      exact hApart (Disk.locate_eq_place hLocate ▸ List.prefix_append m [name])
    rw [hGrows.locate hLocate]
    rw [hLocate] at hFile
    simp only [bind_ok] at hFile ⊢
    rwa [hGrows.find_eq id fun _ => hElse]

end

end Coursebook.Media
