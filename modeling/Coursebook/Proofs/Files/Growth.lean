import Mathlib.Tactic.Common
import Coursebook.Files.Change
import Coursebook.Proofs.Run
import Coursebook.Proofs.Files.Walk

/-!
# Coursebook — disks that only grow

Making directories and writing files leaves a disk with everything that stood on it, apart from
files that have been written over. `Disk.GrowsTo` is that relation between the disk before and the
disk after, with the places where a directory may come up and the contents that a file may get.

The run of each change is told by one equation (`ensureDirectory_run`, `ensureDirectories_run`,
`write_run`), and what it makes of the disk by one growth lemma, whether the change fails or not:

* `ensureDirectories_keeps` — from the making of one directory to that of all on the way.
* `ensureDirectory_grows`, `ensureDirectories_grows` — only places on the way to the path come up.
* `write_grows` — only the place of the path is written.
-/

namespace Coursebook.Files

/-- The disk after is the disk before with directories made, where there was nothing, in some of the
places `made`, and files written, where there was no directory, with some of the contents
`written`. -/
structure Disk.GrowsTo (made : Location → Prop) (written : Location → Content → Prop)
    (d d' : Disk) : Prop where
  here : d'.here = d.here
  find : ∀ l, d'.tree.find? l = d.tree.find? l ∨
    (made l ∧ d.tree.find? l = none ∧ d'.tree.find? l = some .directory) ∨
    (∃ c, written l c ∧ d.tree.find? l ≠ some .directory ∧ d'.tree.find? l = some (.file c))

namespace Disk.GrowsTo

variable {made : Location → Prop} {written : Location → Content → Prop} {d d₁ d₂ : Disk}

theorem refl (d : Disk) : d.GrowsTo made written d := ⟨rfl, fun _ => .inl rfl⟩

/-- A directory stays one. -/
theorem directory (h : d.GrowsTo made written d₁) {l : Location}
    (hl : d.tree.find? l = some .directory) : d₁.tree.find? l = some .directory := by
  rcases h.find l with hSame | ⟨_, hNone, _⟩ | ⟨_, _, hNot, _⟩
  · rw [hSame, hl]
  · rw [hl] at hNone
    cases hNone
  · exact absurd hl hNot

/-- What stands somewhere is never taken away. -/
theorem ne_none (h : d.GrowsTo made written d₁) {l : Location}
    (hl : d.tree.find? l ≠ none) : d₁.tree.find? l ≠ none := by
  rcases h.find l with hSame | ⟨_, hNone, _⟩ | ⟨_, _, _, hFile⟩
  · rwa [hSame]
  · exact absurd hNone hl
  · simp [hFile]

theorem trans (h₁ : d.GrowsTo made written d₁) (h₂ : d₁.GrowsTo made written d₂) :
    d.GrowsTo made written d₂ := by
  refine ⟨h₂.here.trans h₁.here, fun l => ?_⟩
  rcases h₂.find l with hSame | ⟨hMade, hNone, hDir⟩ | ⟨c, hWritten, hNot, hFile⟩
  · rw [hSame]
    exact h₁.find l
  · -- a place that is still empty has not been touched before
    have hBefore : d.tree.find? l = none := by
      by_contra hSome
      exact h₁.ne_none hSome hNone
    exact .inr (.inl ⟨hMade, hBefore, hDir⟩)
  · exact .inr (.inr ⟨c, hWritten, fun hDir => hNot (h₁.directory hDir), hFile⟩)

theorem mono {made' : Location → Prop} {written' : Location → Content → Prop}
    (h : d.GrowsTo made written d₁) (hMade : ∀ l, made l → made' l)
    (hWritten : ∀ l c, written l c → written' l c) : d.GrowsTo made' written' d₁ := by
  refine ⟨h.here, fun l => ?_⟩
  rcases h.find l with hSame | ⟨hl, hNone, hDir⟩ | ⟨c, hc, hNot, hFile⟩
  · exact .inl hSame
  · exact .inr (.inl ⟨hMade l hl, hNone, hDir⟩)
  · exact .inr (.inr ⟨c, hWritten l c hc, hNot, hFile⟩)

/-- A place that is neither made nor written is as before. -/
theorem find_eq (h : d.GrowsTo made written d₁) {l : Location} (hMade : ¬ made l)
    (hWritten : ∀ c, ¬ written l c) : d₁.tree.find? l = d.tree.find? l := by
  rcases h.find l with hSame | ⟨hl, _⟩ | ⟨c, hc, _⟩
  · exact hSame
  · exact absurd hl hMade
  · exact absurd hc (hWritten c)

theorem place (h : d.GrowsTo made written d₁) (p : Path) : d₁.place p = d.place p :=
  place_congr h.here p

theorem start (h : d.GrowsTo made written d₁) (p : Path) : d₁.start p = d.start p := by
  unfold Disk.start
  rw [h.here]

/-- A path that leads somewhere still leads there. -/
theorem locate (h : d.GrowsTo made written d₁) {p : Path} {l : Location}
    (hl : d.locate p = .ok l) : d₁.locate p = .ok l := by
  rw [d₁.locate_eq_walk (isWritable_of_locate hl), h.start]
  exact Tree.walk_mono (fun _ => h.directory) (walk_of_locate hl)

/-- A file stays as it is if none is written. -/
theorem read (h : d.GrowsTo made (fun _ _ => False) d₁) {p : Path} {c : Content}
    (hc : d.read p = .ok c) : d₁.read p = .ok c := by
  unfold Disk.read Disk.entry at hc ⊢
  cases hLocate : d.locate p with
  | error fault => simp [hLocate] at hc
  | ok l =>
    rw [hLocate] at hc
    rw [h.locate hLocate]
    simp only [bind_ok] at hc ⊢
    rcases h.find l with hSame | ⟨_, hNone, _⟩ | ⟨_, hNo, _⟩
    · rwa [hSame]
    · simp [hNone] at hc
    · exact hNo.elim

end Disk.GrowsTo

/-- The top of a tree is always a directory. -/
theorem Tree.ne_nil_of_find? {t : Tree} {l : Location} (h : t.find? l ≠ some .directory) :
    l ≠ [] := by
  rintro rfl
  exact h rfl

/-- What is put at a location is there. -/
theorem Disk.find?_put_self (d : Disk) {l : Location} (hl : l ≠ []) (e : Entry) :
    (d.put l e).tree.find? l = some e := by
  rw [Disk.put, Tree.find?_put _ _ _ _ hl, if_pos rfl]

/-- An entry put where there is no directory is growth. -/
theorem Disk.grows_put_directory {made : Location → Prop} {written : Location → Content → Prop}
    {d : Disk} {l : Location} (hMade : made l) (hNone : d.tree.find? l = none) :
    d.GrowsTo made written (d.put l .directory) := by
  have hl : l ≠ [] := Tree.ne_nil_of_find? (hNone.trans_ne (by simp))
  refine ⟨rfl, fun k => ?_⟩
  by_cases hk : k = l
  · subst hk
    exact .inr (.inl ⟨hMade, hNone, d.find?_put_self hl .directory⟩)
  · exact .inl (by simp [Disk.put, Tree.find?_put _ _ _ _ hl, hk])

theorem Disk.grows_put_file {made : Location → Prop} {written : Location → Content → Prop}
    {d : Disk} {l : Location} {c : Content} (hWritten : written l c)
    (hNot : d.tree.find? l ≠ some .directory) :
    d.GrowsTo made written (d.put l (.file c)) := by
  have hl : l ≠ [] := Tree.ne_nil_of_find? hNot
  refine ⟨rfl, fun k => ?_⟩
  by_cases hk : k = l
  · subst hk
    exact .inr (.inr ⟨c, hWritten, hNot, d.find?_put_self hl (.file c)⟩)
  · exact .inl (by simp [Disk.put, Tree.find?_put _ _ _ _ hl, hk])

/-! ## Making directories -/

theorem Disk.makeDirectory_eq_ok {d d' : Disk} {p : Path} :
    d.makeDirectory p = .ok d' ↔
      ∃ l, d.locate p = .ok l ∧ d.tree.find? l = none ∧ d' = d.put l .directory := by
  unfold Disk.makeDirectory
  cases hLocate : d.locate p with
  | error fault => simp
  | ok l =>
    simp only [Except.ok.injEq, exists_eq_left', bind_ok]
    cases hFind : d.tree.find? l with
    | none => simp [eq_comm]
    | some e => simp

theorem ensureDirectory_run (d : Disk) (p : Path) :
    (ensureDirectory p).run d =
      match d.makeDirectory p with
      | .ok d' => (.ok (), d')
      | .error .nullCharacter => (.error ⟨.nullCharacter, p⟩, d)
      | .error fault =>
        match d.isDirectory p with
        | .ok true => (.ok (), d)
        | .ok false => (.error ⟨fault, p⟩, d)
        | .error e => (.error e, d) := by
  rw [ensureDirectory, run_bind_of_ok (run_get d)]
  cases d.makeDirectory p with
  | ok d' => rfl
  | error fault =>
    cases fault
    case nullCharacter => rfl
    all_goals
      dsimp only
      rw [run_bind, run_liftM]
      cases d.isDirectory p with
      | ok b => cases b <;> rfl
      | error e => rfl

theorem ensureDirectories_run (d : Disk) (p : Path) :
    (ensureDirectories p).run d =
      match d.makeDirectory p with
      | .error .missing =>
        if p.names = [] then (.error ⟨.missing, p⟩, d)
        else
          match (ensureDirectories p.parent).run d with
          | (.ok _, d') => (ensureDirectory p).run d'
          | (.error e, d') => (.error e, d')
      | _ => (ensureDirectory p).run d := by
  rw [ensureDirectories, run_bind_of_ok (run_get d)]
  cases d.makeDirectory p with
  | ok d' => rfl
  | error fault =>
    cases fault
    case missing =>
      dsimp only
      split
      · rfl
      · rw [run_bind]
        obtain ⟨outcome, d'⟩ := (ensureDirectories p.parent).run d
        cases outcome <;> rfl
    all_goals rfl

/-- Whether or not it fails, the making of a directory makes no other. -/
theorem ensureDirectory_grows (d : Disk) (p : Path) (written : Location → Content → Prop) :
    d.GrowsTo (· = d.place p) written ((ensureDirectory p).run d).2 := by
  rw [ensureDirectory_run]
  split
  · rename_i d' hMake
    obtain ⟨l, hLocate, hNone, rfl⟩ := Disk.makeDirectory_eq_ok.mp hMake
    exact Disk.grows_put_directory (Disk.locate_eq_place hLocate) hNone
  · exact .refl d
  · split <;> exact .refl d

/-- A relation between the disks before and after the making of one directory, which goes on from the
directory around, holds for the making of a directory with those around it. -/
theorem ensureDirectories_keeps {R : Path → Disk → Disk → Prop} (hRefl : ∀ p d, R p d d)
    (hTrans : ∀ {p d d₁ d₂}, R p d d₁ → R p d₁ d₂ → R p d d₂)
    (hOne : ∀ p d, R p d ((ensureDirectory p).run d).2)
    (hAround : ∀ p d, p.names ≠ [] → R p.parent d ((ensureDirectories p.parent).run d).2 →
      R p d ((ensureDirectories p.parent).run d).2)
    (p : Path) (d : Disk) : R p d ((ensureDirectories p).run d).2 := by
  rw [ensureDirectories_run]
  split
  · split
    · exact hRefl p d
    · -- the directory around comes first
      rename_i hNames
      have hParent := hAround p d hNames (ensureDirectories_keeps hRefl hTrans hOne hAround p.parent d)
      cases hRun : (ensureDirectories p.parent).run d with
      | mk outcome d₁ =>
        rw [hRun] at hParent
        cases outcome with
        | ok _ => exact hTrans hParent (hOne p d₁)
        | error e => exact hParent
  · exact hOne p d
termination_by p.names.length
decreasing_by
  have hPos := List.length_pos_iff.mpr ‹¬ p.names = []›
  simp only [Path.parent, List.length_dropLast]
  omega

/-- Whether or not it fails, the making of a directory and of those around it makes only directories
on the way to it. -/
theorem ensureDirectories_grows (d : Disk) (p : Path) (written : Location → Content → Prop) :
    d.GrowsTo (fun l => ∃ n, l = d.place (p.upTo n)) written ((ensureDirectories p).run d).2 := by
  refine ensureDirectories_keeps
    (R := fun p d d' => d.GrowsTo (fun l => ∃ n, l = d.place (p.upTo n)) written d')
    (fun _ d => .refl d) (fun {p d d₁ d₂} h h' => ?_) (fun p d => ?_) (fun p d _ h => ?_) p d
  · -- the places are those that they have been before
    refine h.trans (h'.mono ?_ fun _ _ h => h)
    rintro l ⟨n, hl⟩
    exact ⟨n, hl.trans (h.place _)⟩
  · refine (ensureDirectory_grows d p written).mono (fun l hl => ⟨p.names.length, ?_⟩) fun _ _ h => h
    rw [hl, p.upTo_length]
  · -- the names around are the first of these
    refine h.mono ?_ fun _ _ h => h
    rintro l ⟨n, hl⟩
    exact ⟨_, hl.trans (congrArg d.place (p.upTo_parent n))⟩

/-! ## Writing files -/

theorem write_run (d : Disk) (p : Path) (c : Content) :
    (write p c).run d =
      match d.locate p with
      | .error fault => (.error ⟨fault, p⟩, d)
      | .ok l =>
        match d.tree.find? l with
        | some .directory => (.error ⟨.isDirectory, p⟩, d)
        | _ => (.ok (), d.put l (.file c)) := by
  rw [write, run_bind_of_ok (run_get d)]
  cases d.locate p with
  | error fault => rfl
  | ok l =>
    dsimp only
    cases d.tree.find? l with
    | none => rfl
    | some e => cases e <;> rfl

/-- Whether or not it fails, the writing of a file writes no other. -/
theorem write_grows (d : Disk) (p : Path) (c : Content) (made : Location → Prop) :
    d.GrowsTo made (fun l x => l = d.place p ∧ x = c) ((write p c).run d).2 := by
  rw [write_run]
  split
  · exact .refl d
  · rename_i l hLocate
    split
    · exact .refl d
    · rename_i hNot
      exact Disk.grows_put_file ⟨Disk.locate_eq_place hLocate, rfl⟩ hNot

end Coursebook.Files
