import Mathlib.Data.List.Infix
import Coursebook.Files.Change
import Coursebook.Proofs.Run
import Coursebook.Proofs.Files.Walk

/-!
# Coursebook — a disk without one of its files

No path leads through a file, so what is lost with a file are the paths that lead to it. A path that
came to the file with names left has led nowhere before, and still does, though for another reason.

* `Disk.LosesOnly` — two disks that differ by the paths that are gone.
* `Disk.losesOnly_remove` — the disk before and after the removal of a file.
-/

namespace Coursebook.Files

/-! ## Walks -/

/-- One step from outside of a location leads at most to that location, not below it. -/
theorem Location.enter_eq_of_prefix {k l : Location} {name : String} (hk : ¬ l <+: k)
    (h : l <+: k.enter name) : k.enter name = l := by
  unfold Location.enter at h ⊢
  split at h
  · exact absurd (h.trans k.dropLast_prefix) hk
  · rw [if_neg ‹_›]
    rcases List.prefix_concat_iff.mp h with hEq | hPrefix
    · exact hEq.symm
    · exact absurd hPrefix hk

section

variable {t : Tree} {k l : Location} {c : Content}

/-- A walk that does not start below a file never comes below it. -/
theorem Tree.walk_eq_of_prefix (hFile : t.find? l = some (.file c)) (hk : l <+: k → k = l)
    {names : List String} {k' : Location} (h : t.walk k names = .ok k') (hBelow : l <+: k') :
    k' = l := by
  induction names generalizing k with
  | nil =>
    obtain rfl : k = k' := Except.ok.inj h
    exact hk hBelow
  | cons name r ih =>
    rw [Tree.walk] at h
    split at h
    · cases h
    · cases h
    · -- the walk goes on, so this is a directory and not the file
      rename_i hDir
      have hOutside : ¬ l <+: k := by
        intro hPrefix
        rw [hk hPrefix, hFile] at hDir
        cases hDir
      have hNext : l <+: k.enter name → k.enter name = l := Location.enter_eq_of_prefix hOutside
      unfold Location.enter at hNext
      split at h
      · rw [if_pos ‹_›] at hNext
        exact ih hNext h
      · rw [if_neg ‹_›] at hNext
        split at h
        · cases h
        · exact ih hNext h

theorem Tree.find?_removeAll_of_not_prefix (hl : l ≠ []) (hk : ¬ l <+: k) :
    (t.removeAll l).find? k = t.find? k := by
  rw [Tree.find?_removeAll t l k hl, if_neg]
  rwa [List.isPrefixOf_iff_prefix]

theorem Tree.find?_removeAll_self (hl : l ≠ []) : (t.removeAll l).find? l = none := by
  rw [Tree.find?_removeAll t l l hl, if_pos]
  exact List.isPrefixOf_iff_prefix.mpr (List.prefix_refl l)

/-- Without a file a walk ends as before, unless it came to the file with names left: this is no
directory before, and nothing afterwards. -/
theorem Tree.walk_removeAll (hl : l ≠ []) (hFile : t.find? l = some (.file c))
    (hk : l <+: k → k = l) (names : List String) :
    (t.removeAll l).walk k names = t.walk k names ∨
      (t.walk k names = .error .notDirectory ∧
        (t.removeAll l).walk k names = .error .missing) := by
  induction names generalizing k with
  | nil => exact .inl rfl
  | cons name r ih =>
    rw [Tree.walk, Tree.walk]
    by_cases hPrefix : l <+: k
    · obtain rfl := hk hPrefix
      rw [hFile, Tree.find?_removeAll_self hl]
      exact .inr ⟨rfl, rfl⟩
    · rw [Tree.find?_removeAll_of_not_prefix hl hPrefix]
      have hNext : l <+: k.enter name → k.enter name = l := Location.enter_eq_of_prefix hPrefix
      unfold Location.enter at hNext
      split
      · exact .inl rfl
      · exact .inl rfl
      · split
        · rw [if_pos ‹_›] at hNext
          exact ih hNext
        · rw [if_neg ‹_›] at hNext
          split
          · exact .inl rfl
          · exact ih hNext

end

/-! ## Disks -/

/-- A disk on which some paths lead nowhere any more; all else that can be reached is as before. -/
structure Disk.LosesOnly (gone : Path → Bool) (d d' : Disk) : Prop where
  has : ∀ q, d'.has q = if gone q then .ok false else d.has q
  read : ∀ q, d.has q = .ok true → gone q = false → d'.read q = d.read q

section

variable {d : Disk} {p q : Path} {c : Content} {e : Entry}

theorem removeFile_run (h : d.entry p = .ok (.file c)) :
    (removeFile p).run d = (.ok (), d.remove p) := by
  rw [removeFile, run_bind_of_ok (run_get d), h]
  rfl

/-- Where there is nothing, nothing is removed, and that is no fault. -/
theorem removeFile_of_none (h : d.tree.find? (d.place p) = none) :
    (removeFile p).run d = (.ok (), d) := by
  rw [removeFile, run_bind_of_ok (run_get d)]
  cases hEntry : d.entry p with
  | error fault => rfl
  | ok e =>
    rw [(Disk.entry_eq_ok hEntry).2] at h
    cases h

theorem Disk.remove_of_entry (h : d.entry p = .ok e) :
    d.remove p = { d with tree := d.tree.removeAll (d.place p) } := by
  rw [Disk.remove, (Disk.entry_eq_ok h).1]

/-- The paths to where something stands are those that lead to its location. -/
theorem Disk.same_iff (h : d.entry p = .ok e) : d.same q p = true ↔ d.locate q = .ok (d.place p) := by
  obtain ⟨hLocate, hFind⟩ := Disk.entry_eq_ok h
  unfold Disk.same
  rw [hLocate]
  cases d.locate q with
  | error fault => simp
  | ok l =>
    constructor
    · intro hSame
      simp only [Bool.and_eq_true, decide_eq_true_eq] at hSame
      rw [hSame.1]
    · intro hEq
      obtain rfl : l = d.place p := Except.ok.inj hEq
      simp [hFind]

theorem Disk.has_eq_true_iff : d.has q = .ok true ↔ ∃ e, d.entry q = .ok e := by
  unfold Disk.has Disk.ask
  cases d.entry q with
  | ok e => simp
  | error fault => cases fault <;> simp

/-- The top of a tree is no file. -/
theorem Disk.place_ne_nil (hFile : d.entry p = .ok (.file c)) : d.place p ≠ [] := by
  intro hTop
  have hFind := (Disk.entry_eq_ok hFile).2
  rw [hTop] at hFind
  cases hFind

/-- Paths start at the top of the tree or in the working directory, thus not below a file. -/
theorem Disk.start_eq_of_prefix (hFile : d.entry p = .ok (.file c))
    (hHere : ¬ d.place p <+: d.here) (h : d.place p <+: d.start q) : d.start q = d.place p := by
  unfold Disk.start at h ⊢
  split at h
  · exact absurd h hHere
  · exact absurd (List.prefix_nil.mp h) (Disk.place_ne_nil hFile)

theorem Disk.locate_remove (hFile : d.entry p = .ok (.file c)) (hHere : ¬ d.place p <+: d.here)
    (q : Path) :
    (d.remove p).locate q = d.locate q ∨
      (d.locate q = .error .notDirectory ∧ (d.remove p).locate q = .error .missing) := by
  rw [Disk.remove_of_entry hFile]
  unfold Disk.locate
  split
  · exact .inl rfl
  · split
    · exact .inl rfl
    · exact Tree.walk_removeAll (Disk.place_ne_nil hFile) (Disk.entry_eq_ok hFile).2
        (Disk.start_eq_of_prefix hFile hHere) q.names

theorem Disk.find?_remove_self (h : d.entry p = .ok (.file c)) :
    (d.remove p).tree.find? (d.place p) = none := by
  rw [Disk.remove_of_entry h]
  exact Tree.find?_removeAll_self (Disk.place_ne_nil h)

/-- What another path leads to stays. -/
theorem Disk.entry_remove_of_ok (hFile : d.entry p = .ok (.file c))
    (hHere : ¬ d.place p <+: d.here) (hEntry : d.entry q = .ok e) (hOther : d.same q p = false) :
    (d.remove p).entry q = .ok e := by
  obtain ⟨hLocate, hFind⟩ := Disk.entry_eq_ok hEntry
  have hLocate' : (d.remove p).locate q = .ok (d.place q) := by
    rcases d.locate_remove hFile hHere q with hSame | ⟨hThrough, -⟩
    · rw [hSame, hLocate]
    · rw [hLocate] at hThrough
      cases hThrough
  refine Disk.entry_of_locate hLocate' ?_
  rw [Disk.remove_of_entry hFile]
  refine (Tree.find?_removeAll_of_not_prefix (Disk.place_ne_nil hFile) fun hPrefix => ?_).trans hFind
  -- at or below the file there is only the file
  have hPlace : d.place q = d.place p := Tree.walk_eq_of_prefix (Disk.entry_eq_ok hFile).2
    (Disk.start_eq_of_prefix hFile hHere) (Disk.walk_of_locate hLocate) hPrefix
  rw [hPlace] at hLocate
  rw [(Disk.same_iff hFile).mpr hLocate] at hOther
  cases hOther

/-- A path that leads nowhere still does, and a name that is too long is told in the same way. -/
theorem Disk.entry_remove_of_error (hFile : d.entry p = .ok (.file c))
    (hHere : ¬ d.place p <+: d.here) {fault : FileFault} (hEntry : d.entry q = .error fault) :
    (d.remove p).entry q = .error fault ∨
      (fault = .notDirectory ∧ (d.remove p).entry q = .error .missing) := by
  unfold Disk.entry at hEntry ⊢
  rcases d.locate_remove hFile hHere q with hSame | ⟨hThrough, hGone⟩
  · rw [hSame]
    cases hLocate : d.locate q with
    | error fault' =>
      rw [hLocate] at hEntry
      exact .inl hEntry
    | ok l =>
      rw [hLocate, bind_ok] at hEntry
      cases hFind : d.tree.find? l with
      | some e =>
        rw [hFind] at hEntry
        cases hEntry
      | none =>
        -- where nothing stood, nothing stands
        have hNone : (d.remove p).tree.find? l = none := by
          rw [Disk.remove_of_entry hFile, Tree.find?_removeAll _ _ _ (Disk.place_ne_nil hFile),
            hFind, ite_self]
        rw [hFind] at hEntry
        rw [bind_ok, hNone]
        exact .inl hEntry
  · rw [hThrough] at hEntry
    rw [hGone]
    exact .inr ⟨(Except.error.inj hEntry).symm, rfl⟩

/-- With a file are lost the paths that lead to it, and only these. -/
theorem Disk.losesOnly_remove (hFile : d.entry p = .ok (.file c)) (hHere : ¬ d.place p <+: d.here) :
    d.LosesOnly (d.same · p) (d.remove p) := by
  constructor
  · intro q
    split
    · -- the file itself
      rename_i hSame
      have hLocate := (Disk.same_iff hFile).mp hSame
      have hEntry : (d.remove p).entry q = .error .missing := by
        unfold Disk.entry
        rcases d.locate_remove hFile hHere q with hSame | ⟨hThrough, -⟩
        · rw [hSame, hLocate, bind_ok, Disk.find?_remove_self hFile]
        · rw [hLocate] at hThrough
          cases hThrough
      rw [Disk.has, Disk.ask, hEntry]
    · rename_i hOther
      unfold Disk.has Disk.ask
      cases hEntry : d.entry q with
      | ok e => rw [Disk.entry_remove_of_ok hFile hHere hEntry (Bool.not_eq_true _ ▸ hOther)]
      | error fault =>
        rcases Disk.entry_remove_of_error hFile hHere hEntry with hSame | ⟨rfl, hGone⟩
        · rw [hSame]
        · rw [hGone]
  · intro q hThere hOther
    obtain ⟨e, hEntry⟩ := Disk.has_eq_true_iff.mp hThere
    unfold Disk.read
    rw [hEntry, Disk.entry_remove_of_ok hFile hHere hEntry hOther]

end

end Coursebook.Files
