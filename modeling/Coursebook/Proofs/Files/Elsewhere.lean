import Coursebook.Proofs.Files.Below

/-!
# Coursebook — the same in another place

What stands below a path may stand below another one as well, on the same disk or on another one
(`Disk.SameAt`). Two paths that lead down from there by the same names see no difference, unless one
of them is too long for the system: a path is counted from its start, and not from where the two
places begin to be the same.

* `SameAt.locate` — where the two paths lead.
* `SameAt.entry`, `SameAt.list` — what stands there.
-/

namespace Coursebook.Files

/-- Two paths with the same below them, each on its disk: what stands there is the same, and
directories hold the same. -/
inductive Disk.SameAt (d : Disk) (root : Path) (d' : Disk) (root' : Path) : Prop where
  | reached {l l' : Location} (locate : d.locate root = .ok l) (locate' : d'.locate root' = .ok l')
      (find : ∀ names, d'.tree.find? (l' ++ names) = d.tree.find? (l ++ names))
      (hold : ∀ names, (d'.tree.inDirectory (l' ++ names)).Perm (d.tree.inDirectory (l ++ names)))

namespace Path

/-- Two paths that lead down from two others by the same names, and stay below these. -/
def Moved (root root' p p' : Path) : Prop :=
  ∃ names, names ≠ [] ∧ staysIn 0 names = true ∧ p = root.below names ∧ p' = root'.below names

/-- The characters of names are those of the names joined. -/
theorem mem_intercalate_of_mem {c : Char} {names : List String} {n : String} (hn : n ∈ names)
    (hc : c ∈ n.toList) : c ∈ ("/".intercalate names).toList := by
  induction names with
  | nil => cases hn
  | cons m r ih =>
    by_cases hr : r = []
    · subst hr
      rw [List.mem_singleton] at hn
      rwa [String.intercalate_singleton, ← hn]
    · rw [String.intercalate_cons_of_ne_nil hr, String.toList_append, String.toList_append]
      rcases List.mem_cons.mp hn with rfl | hn
      · exact List.mem_append_left _ (List.mem_append_left _ hc)
      · exact List.mem_append_right _ (ih hn)

/-- Below a path that the system takes, a null character can only stand in one of the names. -/
theorem null_mem_below_iff {p : Path} (hp : p.IsWritable) (names : List String) :
    '\x00' ∈ (toString (p.below names)).toList ↔ ∃ n ∈ names, '\x00' ∈ n.toList := by
  constructor
  · intro hMem
    by_contra hNone
    push Not at hNone
    exact null_not_mem_below hp.1 hNone hMem
  · rintro ⟨n, hn, hc⟩
    have hSome : p.names ++ names ≠ [] :=
      List.append_ne_nil_of_right_ne_nil _ (List.ne_nil_of_mem hn)
    rw [Path.below, join, toString_eq hSome, String.toList_append]
    exact List.mem_append_right _ (mem_intercalate_of_mem (List.mem_append_right _ hn) hc)

end Path

theorem Disk.locate_of_null {p : Path} (h : '\x00' ∈ (toString p).toList) (d : Disk) :
    d.locate p = .error .nullCharacter := by
  rw [Disk.locate, String.contains_char_eq, if_pos (decide_eq_true h)]

theorem Disk.locate_of_isLongPath {p : Path} (hNull : '\x00' ∉ (toString p).toList)
    (hLong : isLongPath (toString p) = true) (d : Disk) : d.locate p = .error .nameTooLong := by
  have hPlain : decide ('\x00' ∈ (toString p).toList) ≠ true := by rwa [ne_eq, decide_eq_true_eq]
  rw [Disk.locate, String.contains_char_eq, if_neg hPlain, if_pos hLong]

/-- A path that is refused since it is too long as a whole. -/
structure Disk.TooLong (d : Disk) (p : Path) : Prop where
  long : isLongPath (toString p) = true
  refused : d.locate p = .error .nameTooLong

theorem Disk.TooLong.entry {d : Disk} {p : Path} (h : d.TooLong p) :
    d.entry p = .error .nameTooLong := by
  rw [Disk.entry, h.refused]
  rfl

theorem Disk.TooLong.ask {d : Disk} {p : Path} (h : d.TooLong p) (question : Entry → Bool) :
    d.ask p question = .error ⟨.nameTooLong, p⟩ := by
  rw [Disk.ask, h.entry]

namespace Disk.SameAt

variable {d d' : Disk} {root root' p p' : Path}

/-- Down from the two places, two paths lead to the same, or fail in the same way, unless one of them
is too long. -/
theorem locate (h : d.SameAt root d' root') (hp : Path.Moved root root' p p') :
    (∃ k k', d.locate p = .ok k ∧ d'.locate p' = .ok k' ∧
      d'.tree.find? k' = d.tree.find? k ∧ (d'.tree.inDirectory k').Perm (d.tree.inDirectory k)) ∨
    (∃ fault, d.locate p = .error fault ∧ d'.locate p' = .error fault) ∨
    d.TooLong p ∨ d'.TooLong p' := by
  obtain @⟨l, l', hRoot, hRoot', hFind, hHold⟩ := h
  obtain ⟨names, -, hStays, rfl, rfl⟩ := hp
  have hNull := Path.null_mem_below_iff (isWritable_of_locate hRoot) names
  have hNull' := Path.null_mem_below_iff (isWritable_of_locate hRoot') names
  -- a null character stands in the names, thus in both paths or in none
  by_cases hSome : ∃ n ∈ names, '\x00' ∈ n.toList
  · exact .inr (.inl ⟨_, locate_of_null (hNull.mpr hSome) d, locate_of_null (hNull'.mpr hSome) d'⟩)
  have hPlain := mt hNull.mp hSome
  have hPlain' := mt hNull'.mp hSome
  by_cases hLong : isLongPath (toString (root.below names)) = true
  · exact .inr (.inr (.inl ⟨hLong, locate_of_isLongPath hPlain hLong d⟩))
  by_cases hLong' : isLongPath (toString (root'.below names)) = true
  · exact .inr (.inr (.inr ⟨hLong', locate_of_isLongPath hPlain' hLong' d'⟩))
  -- past the two places both disks are walked in step
  have hHere : staysIn ([] : Location).length names = true := hStays
  have hWalk := Tree.walk_same hFind hHere
  rw [List.append_nil, List.append_nil,
    ← locate_below hRoot ⟨hPlain, Bool.not_eq_true _ ▸ hLong⟩,
    ← locate_below hRoot' ⟨hPlain', Bool.not_eq_true _ ▸ hLong'⟩] at hWalk
  rcases hWalk with ⟨k, hk, hk'⟩ | hFault
  · exact .inl ⟨l ++ k, l' ++ k, hk, hk', hFind k, hHold k⟩
  · exact .inr (.inl hFault)

theorem entry (h : d.SameAt root d' root') (hp : Path.Moved root root' p p') :
    d'.entry p' = d.entry p ∨ d.TooLong p ∨ d'.TooLong p' := by
  rcases h.locate hp with ⟨k, k', hk, hk', hFind, _⟩ | ⟨fault, he, he'⟩ | hLong
  · left
    unfold Disk.entry
    rw [hk, hk']
    simp only [hFind, bind_ok]
  · left
    unfold Disk.entry
    rw [he, he']
    rfl
  · exact .inr hLong

/-- Directories hold the same, in some order. -/
theorem list (h : d.SameAt root d' root') (hp : Path.Moved root root' p p') :
    (d'.list p').Perm (d.list p) ∨ d.TooLong p ∨ d'.TooLong p' := by
  rcases h.locate hp with ⟨k, k', hk, hk', _, hHold⟩ | ⟨fault, he, he'⟩ | hLong
  · left
    unfold Disk.list
    rw [hk, hk']
    exact hHold
  · left
    unfold Disk.list
    rw [he, he']
  · exact .inr hLong

end Disk.SameAt

end Coursebook.Files
