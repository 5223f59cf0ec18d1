import Mathlib.Data.List.Basic
import Coursebook.Files.Change
import Coursebook.Proofs.Run
import Coursebook.Proofs.Files.Name

/-!
# Coursebook — what stands below a path

Two disks can have the same below a path and differ anywhere else (`Disk.SameBelow`). A path that
goes down from there, and never back above it, sees no difference: walked on either disk it comes to
the same place below, or fails in the same way.

* `Tree.walk_same` — the two walks.
* `SameBelow.entry`, and from it `SameBelow.has`, `SameBelow.read` and the other questions.
* `SameBelow.list` — what directories hold.
* `sameBelow_put` — a change anywhere else.
-/

namespace Coursebook.Files

/-- Whether names that start `depth` directories below a location never lead above it. -/
def staysIn : Nat → List String → Bool
  | _, [] => true
  | depth, name :: r =>
    if name = ".." then decide (0 < depth) && staysIn (depth - 1) r else staysIn (depth + 1) r

/-- Names that never go back stay where they are. -/
theorem staysIn_of_not_mem {names : List String} (h : ".." ∉ names) (depth : Nat) :
    staysIn depth names = true := by
  induction names generalizing depth with
  | nil => rfl
  | cons name r ih =>
    rw [List.mem_cons, not_or] at h
    rw [staysIn, if_neg (Ne.symm h.1)]
    exact ih h.2 (depth + 1)

/-- From two locations with the same below them, names that stay there lead to the same place. -/
theorem Tree.walk_same {t t' : Tree} {l l' : Location}
    (hFind : ∀ names, t'.find? (l' ++ names) = t.find? (l ++ names)) {names : List String}
    {above : Location} (hStays : staysIn above.length names = true) :
    (∃ k, t.walk (l ++ above) names = .ok (l ++ k) ∧ t'.walk (l' ++ above) names = .ok (l' ++ k)) ∨
    ∃ fault, t.walk (l ++ above) names = .error fault ∧
      t'.walk (l' ++ above) names = .error fault := by
  induction names generalizing above with
  | nil => exact .inl ⟨above, rfl, rfl⟩
  | cons name r ih =>
    rw [Tree.walk, Tree.walk, hFind]
    cases t.find? (l ++ above) with
    | none => exact .inr ⟨_, rfl, rfl⟩
    | some e =>
      cases e with
      | file c => exact .inr ⟨_, rfl, rfl⟩
      | directory =>
        dsimp only
        rw [staysIn] at hStays
        by_cases hUp : name = ".."
        · -- going back is possible only as far as the walk has come down
          rw [if_pos hUp] at hStays
          rw [if_pos hUp, if_pos hUp]
          rw [Bool.and_eq_true, decide_eq_true_eq, List.length_pos_iff] at hStays
          obtain ⟨hDown, hRest⟩ := hStays
          rw [List.dropLast_append_of_ne_nil hDown, List.dropLast_append_of_ne_nil hDown]
          refine ih ?_
          rwa [List.length_dropLast]
        · rw [if_neg hUp] at hStays
          rw [if_neg hUp, if_neg hUp]
          by_cases hLong : isLongName name = true
          · rw [if_pos hLong, if_pos hLong]
            exact .inr ⟨_, rfl, rfl⟩
          · rw [if_neg hLong, if_neg hLong, List.append_assoc, List.append_assoc]
            refine ih ?_
            rwa [List.length_append]

/-- Two disks with the same below a path: what stands there is the same, and directories hold the
same; or on both the path leads to nothing, for the same reason. -/
inductive Disk.SameBelow (d d' : Disk) (root : Path) : Prop where
  | reached {l l' : Location} (locate : d.locate root = .ok l) (locate' : d'.locate root = .ok l')
      (find : ∀ names, d'.tree.find? (l' ++ names) = d.tree.find? (l ++ names))
      (hold : ∀ names, (d'.tree.inDirectory (l' ++ names)).Perm (d.tree.inDirectory (l ++ names)))
  | nothing {fault : FileFault} (entry : d.entry root = .error fault)
      (entry' : d'.entry root = .error fault)

/-- A path that the system does not take is refused on every disk alike. -/
theorem Disk.locate_of_not_isWritable {p : Path} (h : ¬ p.IsWritable) (d d' : Disk) :
    ∃ fault, d.locate p = .error fault ∧ d'.locate p = .error fault := by
  unfold Disk.locate
  by_cases hNull : (toString p).contains '\x00' = true
  · exact ⟨.nullCharacter, by rw [if_pos hNull], by rw [if_pos hNull]⟩
  · rw [if_neg hNull, if_neg hNull]
    by_cases hLong : isLongPath (toString p) = true
    · exact ⟨.nameTooLong, by rw [if_pos hLong], by rw [if_pos hLong]⟩
    · refine absurd ⟨?_, Bool.not_eq_true _ ▸ hLong⟩ h
      rwa [String.contains_char_eq, decide_eq_true_eq] at hNull

/-- Below a path that leads to nothing there is nothing, for the same reason. -/
theorem Disk.locate_below_of_error {d : Disk} {p : Path} {fault : FileFault}
    (h : d.entry p = .error fault) {names : List String} (hNames : names ≠ [])
    (hWritable : (p.below names).IsWritable) : d.locate (p.below names) = .error fault := by
  have hStart : d.start (p.below names) = d.start p := rfl
  have hWalk : d.locate (p.below names) =
      d.locate p >>= fun l => d.tree.walk l names := by
    rw [d.locate_eq_walk hWritable, d.locate_eq_walk hWritable.of_below, hStart, Path.below_names,
      Tree.walk_append]
  -- either the walk to the path fails already, or it fails at the first name after it
  rw [hWalk]
  unfold Disk.entry at h
  cases hLocate : d.locate p with
  | error fault' => simpa [hLocate] using h
  | ok l =>
    rw [hLocate] at h
    simp only [bind_ok] at h ⊢
    cases hFind : d.tree.find? l with
    | some e => simp [hFind] at h
    | none =>
      obtain ⟨name, r, rfl⟩ := List.exists_cons_of_ne_nil hNames
      rw [hFind] at h
      rw [Tree.walk, hFind]
      simpa using h

/-- A path that leads down from another one and stays below it. -/
def Path.IsWithin (p root : Path) : Prop :=
  ∃ names, names ≠ [] ∧ staysIn 0 names = true ∧ p = root.below names

theorem Path.isWithin_below {root : Path} {names : List String} (hNames : names ≠ [])
    (hUp : ".." ∉ names) : (root.below names).IsWithin root :=
  ⟨names, hNames, staysIn_of_not_mem hUp 0, rfl⟩

namespace Disk.SameBelow

variable {d d' : Disk} {root p : Path}

/-- Down from there, a path leads to the same on both disks. -/
theorem locate (h : d.SameBelow d' root) (hp : p.IsWithin root) :
    (∃ k k', d.locate p = .ok k ∧ d'.locate p = .ok k' ∧
      d'.tree.find? k' = d.tree.find? k ∧ (d'.tree.inDirectory k').Perm (d.tree.inDirectory k)) ∨
    ∃ fault, d.locate p = .error fault ∧ d'.locate p = .error fault := by
  obtain ⟨names, hNames, hStays, rfl⟩ := hp
  by_cases hWritable : (root.below names).IsWritable
  · -- past the root both disks are walked in step, and nothing above it is seen
    cases h with
    | @reached l l' hLocate hLocate' hFind hHold =>
      have hHere : staysIn ([] : Location).length names = true := hStays
      have hWalk := Tree.walk_same hFind hHere
      rw [List.append_nil, List.append_nil, ← Disk.locate_below hLocate hWritable,
        ← Disk.locate_below hLocate' hWritable] at hWalk
      rcases hWalk with ⟨k, hk, hk'⟩ | hFault
      · exact .inl ⟨l ++ k, l' ++ k, hk, hk', hFind k, hHold k⟩
      · exact .inr hFault
    | nothing hEntry hEntry' =>
      exact .inr ⟨_, Disk.locate_below_of_error hEntry hNames hWritable,
        Disk.locate_below_of_error hEntry' hNames hWritable⟩
  · exact .inr (Disk.locate_of_not_isWritable hWritable d d')

theorem entry (h : d.SameBelow d' root) (hp : p.IsWithin root) : d'.entry p = d.entry p := by
  unfold Disk.entry
  rcases h.locate hp with ⟨k, k', hk, hk', hFind, _⟩ | ⟨fault, he, he'⟩
  · rw [hk, hk']
    simp only [hFind, bind_ok]
  · rw [he, he']
    rfl

/-- Every question is answered in the same way. -/
theorem ask (h : d.SameBelow d' root) (hp : p.IsWithin root) (question : Entry → Bool) :
    d'.ask p question = d.ask p question := by
  unfold Disk.ask
  rw [h.entry hp]

theorem has (h : d.SameBelow d' root) (hp : p.IsWithin root) : d'.has p = d.has p := h.ask hp _

theorem isFile (h : d.SameBelow d' root) (hp : p.IsWithin root) : d'.isFile p = d.isFile p :=
  h.ask hp _

theorem isDirectory (h : d.SameBelow d' root) (hp : p.IsWithin root) :
    d'.isDirectory p = d.isDirectory p :=
  h.ask hp _

theorem read (h : d.SameBelow d' root) (hp : p.IsWithin root) : d'.read p = d.read p := by
  unfold Disk.read
  rw [h.entry hp]

/-- Directories hold the same, in some order. -/
theorem list (h : d.SameBelow d' root) (hp : p.IsWithin root) :
    (d'.list p).Perm (d.list p) := by
  unfold Disk.list
  rcases h.locate hp with ⟨k, k', hk, hk', _, hHold⟩ | ⟨fault, he, he'⟩
  · rw [hk, hk']
    exact hHold
  · rw [he, he']

end Disk.SameBelow

/-- An entry put anywhere else changes nothing below a location. -/
theorem Tree.inDirectory_put {t : Tree} {k m : Location} (e : Entry) (hk : k.dropLast ≠ m) :
    (t.put k e).inDirectory m = t.inDirectory m := by
  unfold Tree.put Tree.inDirectory
  rw [List.filterMap_cons_none, List.filterMap_filter]
  · refine List.filterMap_congr fun x _ => ?_
    obtain ⟨k', e'⟩ := x
    by_cases hSame : k' = k
    · -- what stood there before is gone, and was not in this directory either
      subst hSame
      cases hLast : k'.getLast? with
      | none => simp [hLast]
      | some name => simp [hLast, hk]
    · simp [hSame]
  · cases hLast : k.getLast? with
    | none => simp [hLast]
    | some name => simp [hLast, hk]

/-- A change anywhere else is not seen below a path, unless it keeps the path from being reached. -/
theorem Disk.sameBelow_put {d : Disk} {root : Path} {l k : Location} {e : Entry}
    (hReached : d.locate root = .ok l) (hStill : (d.put k e).locate root = .ok l) (hk : k ≠ [])
    (hElse : ¬ l <+: k) : d.SameBelow (d.put k e) root := by
  refine .reached hReached hStill (fun names => ?_) fun names => ?_
  · have hOther : l ++ names ≠ k := by
      rintro rfl
      exact hElse (List.prefix_append l names)
    rw [Disk.put, Tree.find?_put _ _ _ _ hk, if_neg hOther]
  · have hOther : k.dropLast ≠ l ++ names := by
      intro hLast
      have hBelow : l <+: k.dropLast := hLast ▸ List.prefix_append l names
      exact hElse (hBelow.trans (List.dropLast_prefix k))
    rw [Disk.put, Tree.inDirectory_put e hOther]

end Coursebook.Files
