import Coursebook.Proofs.Files.Growth

/-!
# Coursebook — disks that are edited

Every change of a disk but the removal of something is a row of entries put in places, whether it
succeeds or not. `Disk.Edits` is that relation between the disk before and the disk after, with the
entries that may be put and where. It tells more than growth does, since it speaks of the lists that
disks are kept in, and what a change leaves alone can be read off it.

* `ensureDirectories_edits`, `write_edits`, `copy_edits` — what each change puts where.
* `Edits.find`, `Edits.mem` — what an edited disk has.
-/

namespace Coursebook.Files

/-- The disk after is the disk before with entries put in some places, each of them allowed. -/
inductive Disk.Edits (allowed : Location → Entry → Prop) (d : Disk) : Disk → Prop where
  | refl : Edits allowed d d
  | put {d₁ : Disk} {l : Location} {e : Entry} (before : Edits allowed d d₁) (top : l ≠ [])
      (here : allowed l e) : Edits allowed d (d₁.put l e)

namespace Disk.Edits

variable {allowed allowed' : Location → Entry → Prop} {d d₁ d₂ : Disk}

theorem single {l : Location} {e : Entry} (hl : l ≠ []) (h : allowed l e) :
    d.Edits allowed (d.put l e) :=
  .put .refl hl h

theorem trans (h₁ : d.Edits allowed d₁) (h₂ : d₁.Edits allowed d₂) : d.Edits allowed d₂ := by
  induction h₂ with
  | refl => exact h₁
  | put _ hl h ih => exact .put ih hl h

theorem mono (h : d.Edits allowed d₁) (hAllowed : ∀ l e, allowed l e → allowed' l e) :
    d.Edits allowed' d₁ := by
  induction h with
  | refl => exact .refl
  | put _ hl h ih => exact .put ih hl (hAllowed _ _ h)

theorem here_eq (h : d.Edits allowed d₁) : d₁.here = d.here := by
  induction h with
  | refl => rfl
  | put _ _ _ ih => exact ih

theorem place (h : d.Edits allowed d₁) (p : Path) : d₁.place p = d.place p :=
  place_congr h.here_eq p

/-- What stands at a location stood there before, or has been put there. -/
theorem find (h : d.Edits allowed d₁) (l : Location) :
    d₁.tree.find? l = d.tree.find? l ∨ ∃ e, allowed l e ∧ d₁.tree.find? l = some e := by
  induction h with
  | refl => exact .inl rfl
  | @put d₁ k e _ hk h ih =>
    by_cases hl : l = k
    · subst hl
      exact .inr ⟨e, h, d₁.find?_put_self hk e⟩
    · rw [Disk.put, Tree.find?_put _ _ _ _ hk, if_neg hl]
      exact ih

theorem find_eq (h : d.Edits allowed d₁) {l : Location} (hl : ∀ e, ¬ allowed l e) :
    d₁.tree.find? l = d.tree.find? l := by
  rcases h.find l with hSame | ⟨e, he, _⟩
  · exact hSame
  · exact absurd he (hl e)

theorem ne_none (h : d.Edits allowed d₁) {l : Location} (hl : d.tree.find? l ≠ none) :
    d₁.tree.find? l ≠ none := by
  rcases h.find l with hSame | ⟨e, _, hPut⟩
  · rwa [hSame]
  · simp [hPut]

/-- An entry of the disk was one before, or has been put. -/
theorem mem (h : d.Edits allowed d₁) {x : Location × Entry} (hx : x ∈ d₁.tree.entries) :
    x ∈ d.tree.entries ∨ allowed x.1 x.2 := by
  induction h with
  | refl => exact .inl hx
  | put _ _ h ih =>
    rcases List.mem_cons.mp hx with rfl | hx
    · exact .inr h
    · exact ih (List.mem_filter.mp hx).1

end Disk.Edits

/-! ## The changes -/

/-- A place on the way to a path where nothing stands. -/
def Disk.Lacks (d : Disk) (p : Path) (l : Location) : Prop :=
  (∃ n, l = d.place (p.upTo n)) ∧ d.tree.find? l = none

theorem ensureDirectory_edits (d : Disk) (p : Path) :
    d.Edits (fun l e => d.Lacks p l ∧ e = .directory) ((ensureDirectory p).run d).2 := by
  rw [ensureDirectory_run]
  split
  · rename_i d' hMake
    obtain ⟨l, hLocate, hNone, rfl⟩ := Disk.makeDirectory_eq_ok.mp hMake
    refine .single (Tree.ne_nil_of_find? (hNone.trans_ne (by simp))) ⟨⟨⟨p.names.length, ?_⟩, hNone⟩, rfl⟩
    rw [p.upTo_length, Disk.locate_eq_place hLocate]
  · exact .refl
  · split <;> exact .refl

/-- Directories are put only on the way to the path, where there was nothing. -/
theorem ensureDirectories_edits (d : Disk) (p : Path) :
    d.Edits (fun l e => d.Lacks p l ∧ e = .directory) ((ensureDirectories p).run d).2 := by
  refine ensureDirectories_keeps (R := fun p d d' => d.Edits (fun l e => d.Lacks p l ∧ e = .directory) d')
    (fun _ _ => .refl) (fun {p d d₁ d₂} h h' => ?_) (fun p d => ensureDirectory_edits d p)
    (fun p d _ h => ?_) p d
  · -- what is lacking afterwards has been lacking before
    refine h.trans (h'.mono ?_)
    rintro l e ⟨⟨⟨n, hn⟩, hNone⟩, he⟩
    refine ⟨⟨⟨n, hn.trans (h.place _)⟩, ?_⟩, he⟩
    by_contra hSome
    exact h.ne_none hSome hNone
  · refine h.mono ?_
    rintro l e ⟨⟨⟨n, hn⟩, hNone⟩, he⟩
    exact ⟨⟨⟨_, hn.trans (congrArg d.place (p.upTo_parent n))⟩, hNone⟩, he⟩

/-- A file is put at the place of its path, and nothing else. -/
theorem write_edits (d : Disk) (p : Path) (c : Content) :
    d.Edits (fun l e => l = d.place p ∧ e = .file c) ((write p c).run d).2 := by
  rw [write_run]
  split
  · exact .refl
  · rename_i l hLocate
    split
    · exact .refl
    · rename_i hNot
      exact .single (Tree.ne_nil_of_find? hNot) ⟨Disk.locate_eq_place hLocate, rfl⟩

theorem copy_run (d : Disk) (source target : Path) :
    (copy source target).run d =
      if d.same source (d.copyTarget source target) then
        (.error (.same source (d.copyTarget source target)), d)
      else
        match d.read source with
        | .error e => (.error (.file e), d)
        | .ok c =>
          let (result, d') := (write (d.copyTarget source target) c).run d
          (result.mapError .file, d') := by
  unfold copy
  rw [run_bind_of_ok (run_get d)]
  dsimp only
  split
  · rfl
  · show (match d.read source with
      | .error e => throw (CopyError.file e)
      | .ok c => ExceptT.adapt CopyError.file (write (d.copyTarget source target) c)).run d = _
    cases d.read source with
    | error e => rfl
    | ok c => rfl

theorem copy_edits (d : Disk) (source target : Path) :
    d.Edits (fun l e => l = d.place (d.copyTarget source target) ∧ ∃ c, e = .file c)
      ((copy source target).run d).2 := by
  rw [copy_run]
  split
  · exact .refl
  · split
    · exact .refl
    · rename_i c _
      exact (write_edits d _ c).mono fun l e h => ⟨h.1, c, h.2⟩

end Coursebook.Files
