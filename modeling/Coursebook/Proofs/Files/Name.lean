import Mathlib.Algebra.GroupWithZero.Nat
import Coursebook.Proofs.Files.Walk
import Coursebook.Proofs.Text.Split

/-!
# Coursebook — names and written paths

The names that files and directories can have, and what the written form of a path keeps of its
names: reading it again gives the path back, and the written form of a path is a part of that of
every path below it.

* `Path.ofString_toString` — a path written and read.
* `Path.IsWritable.of_below`, `Path.IsWritable.below` — which paths the system takes.
-/

namespace Coursebook.Files

/-- A name that a file or directory can have. -/
structure IsName (name : String) : Prop where
  ne_empty : name ≠ ""
  ne_here : name ≠ "."
  ne_up : name ≠ ".."
  slash : '/' ∉ name.toList
  null : '\x00' ∉ name.toList
  short : isLongName name = false

instance (name : String) : Decidable (IsName name) :=
  decidable_of_iff
    (name ≠ "" ∧ name ≠ "." ∧ name ≠ ".." ∧ '/' ∉ name.toList ∧ '\x00' ∉ name.toList ∧
      isLongName name = false)
    ⟨fun ⟨hEmpty, hHere, hUp, hSlash, hNull, hShort⟩ => ⟨hEmpty, hHere, hUp, hSlash, hNull, hShort⟩,
      fun h => ⟨h.ne_empty, h.ne_here, h.ne_up, h.slash, h.null, h.short⟩⟩

/-! ## Reading what has been written -/

namespace Path

theorem toString_eq {root : PathRoot} {names : List String} (h : names ≠ []) :
    toString (⟨root, names⟩ : Path) = rootText root ++ "/".intercalate names := by
  show Path.toString ⟨root, names⟩ = _
  unfold Path.toString
  split
  · exact absurd ‹_› h
  · rfl

/-- The parts of joined names are the names. -/
theorem namesOf_intercalate {names : List String} (h : ∀ n ∈ names, IsName n) :
    namesOf ("/".intercalate names) = names := by
  cases names with
  | nil => rfl
  | cons n r =>
    unfold namesOf
    have hSplit : Text.splitAll '/' ("/".intercalate (n :: r)).toList = (n :: r).map String.toList := by
      rw [String.toList_intercalate, List.map_cons]
      refine Text.splitAll_intercalate fun v hv => ?_
      rw [← List.map_cons, List.mem_map] at hv
      obtain ⟨m, hm, rfl⟩ := hv
      exact (h m hm).slash
    rw [hSplit]
    generalize n :: r = names at h
    -- no part is dropped
    induction names with
    | nil => rfl
    | cons m r ih =>
      have hm := h m List.mem_cons_self
      have hEmpty : m.toList ≠ [] := fun h' => hm.ne_empty (String.toList_eq_nil_iff.mp h')
      have hHere : m.toList ≠ ['.'] := fun h' => hm.ne_here (String.toList_inj.mp h')
      rw [List.map_cons, List.filterMap_cons, if_neg (not_or.mpr ⟨hEmpty, hHere⟩),
        ih fun k hk => h k (List.mem_cons_of_mem m hk), String.ofList_toList]

theorem namesOf_slash (s : String) : namesOf ("/" ++ s) = namesOf s := by
  simp [namesOf]

/-- Joined names do not begin with a slash. -/
theorem head?_intercalate {names : List String} (h : ∀ n ∈ names, IsName n) :
    ("/".intercalate names).toList.head? ≠ some '/' := by
  cases names with
  | nil => simp
  | cons n r =>
    have hn := h n List.mem_cons_self
    cases hChars : n.toList with
    | nil => exact absurd (String.toList_eq_nil_iff.mp hChars) hn.ne_empty
    | cons c cs =>
      have hc : c ≠ '/' := by
        rintro rfl
        exact hn.slash (hChars ▸ List.mem_cons_self)
      cases r <;> simp [hChars, hc]

/-- A path written and read is the path, if its names are those of files and directories. -/
theorem ofString_toString {p : Path} (h : ∀ n ∈ p.names, IsName n) : ofString (toString p) = p := by
  obtain ⟨root, names⟩ := p
  by_cases hNames : names = []
  · subst hNames
    cases root <;> rfl
  · have hHead := head?_intercalate h
    rw [toString_eq hNames, ofString]
    cases root with
    | relative =>
      rw [rootText, String.empty_append, namesOf_intercalate h]
      generalize ("/".intercalate names).toList = s at hHead
      unfold rootOf
      split <;> simp_all
    | slash =>
      rw [rootText, namesOf_slash, namesOf_intercalate h, String.toList_append]
      generalize ("/".intercalate names).toList = s at hHead
      show Path.mk (rootOf ('/' :: s)) _ = _
      unfold rootOf
      split <;> simp_all
    | doubleSlash =>
      have hTwo : rootText .doubleSlash = "/" ++ "/" := rfl
      rw [hTwo, String.append_assoc, namesOf_slash, namesOf_slash, namesOf_intercalate h,
        String.toList_append, String.toList_append]
      generalize ("/".intercalate names).toList = s at hHead
      show Path.mk (rootOf ('/' :: '/' :: s)) _ = _
      congr 1
      cases s with
      | nil => rfl
      | cons c s =>
        have hc : c ≠ '/' := fun h' => hHead (h' ▸ rfl)
        simp [rootOf, hc]

/-- The names that a text is read as have no slash in them. -/
theorem slash_not_mem_name (s : String) : '/' ∉ (ofString s).name.toList := by
  have hNames : ∀ n ∈ (ofString s).names, '/' ∉ n.toList := by
    intro n hn
    obtain ⟨w, hw, hPart⟩ := List.mem_filterMap.mp hn
    rw [Option.ite_none_left_eq_some] at hPart
    obtain ⟨-, hName⟩ := hPart
    cases hName
    rw [String.toList_ofList]
    exact Text.not_mem_of_mem_splitAll hw
  rw [name, List.getLastD_eq_getLast?]
  cases hLast : (ofString s).names.getLast? with
  | none => exact List.not_mem_nil
  | some n => exact hNames n (List.mem_of_getLast? hLast)

/-! ## Which paths the system takes -/

/-- The written form of what is below a path. -/
theorem toString_below {p : Path} (hp : p.names ≠ []) {names : List String} (hNames : names ≠ []) :
    toString (p.below names) = toString p ++ "/" ++ "/".intercalate names := by
  obtain ⟨root, above⟩ := p
  show toString (⟨root, above ++ names⟩ : Path) = _
  rw [toString_eq hp, toString_eq (List.append_ne_nil_of_left_ne_nil hp names),
    String.intercalate_append_of_ne_nil hp hNames]
  simp only [String.append_assoc]

theorem isWritable_root (root : PathRoot) : (⟨root, []⟩ : Path).IsWritable := by
  cases root <;> exact ⟨by decide, by decide⟩

/-- The system takes a path if it takes one below it. -/
theorem IsWritable.of_below {p : Path} {names : List String} (h : (p.below names).IsWritable) :
    p.IsWritable := by
  obtain ⟨root, above⟩ := p
  by_cases hAbove : above = []
  · subst hAbove
    exact isWritable_root root
  · by_cases hNames : names = []
    · subst hNames
      rwa [below, join, List.append_nil] at h
    · obtain ⟨hNull, hLong⟩ := h
      rw [toString_below hAbove hNames, String.append_assoc] at hNull hLong
      constructor
      · intro hMem
        exact hNull (String.toList_append ▸ List.mem_append_left _ hMem)
      · rw [isLongPath, String.utf8ByteSize_append, decide_eq_false_iff_not] at hLong
        rw [isLongPath, decide_eq_false_iff_not]
        omega

/-- A character of joined names is a slash or stands in one of them. -/
theorem mem_intercalate {c : Char} {names : List String} (h : c ∈ ("/".intercalate names).toList) :
    c = '/' ∨ ∃ n ∈ names, c ∈ n.toList := by
  induction names with
  | nil => simp at h
  | cons n r ih =>
    by_cases hr : r = []
    · subst hr
      rw [String.intercalate_singleton] at h
      exact .inr ⟨n, List.mem_cons_self, h⟩
    · rw [String.intercalate_cons_of_ne_nil hr, String.toList_append, String.toList_append,
        List.mem_append, List.mem_append] at h
      rcases h with (hn | hSlash) | hRest
      · exact .inr ⟨n, List.mem_cons_self, hn⟩
      · exact .inl (List.mem_singleton.mp hSlash)
      · rcases ih hRest with hSlash | ⟨m, hm, hc⟩
        · exact .inl hSlash
        · exact .inr ⟨m, List.mem_cons_of_mem n hm, hc⟩

/-- A null character below a path stands in the path or in one of the names. -/
theorem null_not_mem_below {p : Path} (h : '\x00' ∉ (toString p).toList) {names : List String}
    (hNull : ∀ n ∈ names, '\x00' ∉ n.toList) : '\x00' ∉ (toString (p.below names)).toList := by
  intro hMem
  have hJoined : '\x00' ∉ ("/".intercalate names).toList := by
    intro hMem
    rcases mem_intercalate hMem with hSlash | ⟨n, hn, hc⟩
    · cases hSlash
    · exact hNull n hn hc
  obtain ⟨root, above⟩ := p
  by_cases hNames : names = []
  · subst hNames
    rw [Path.below, join, List.append_nil] at hMem
    exact h hMem
  · by_cases hAbove : above = []
    · subst hAbove
      rw [Path.below, join, List.nil_append, toString_eq hNames, String.toList_append,
        List.mem_append] at hMem
      rcases hMem with hRoot | hMem
      · cases root <;> revert hRoot <;> decide
      · exact hJoined hMem
    · rw [toString_below hAbove hNames, String.toList_append, String.toList_append,
        List.mem_append, List.mem_append] at hMem
      rcases hMem with (hMem | hSlash) | hMem
      · exact h hMem
      · cases List.mem_singleton.mp hSlash
      · exact hJoined hMem

/-- The system takes a path below one that it takes, if the names have no null character and the
path as a whole is not too long. -/
theorem IsWritable.below {p : Path} (h : p.IsWritable) {names : List String}
    (hNull : ∀ n ∈ names, '\x00' ∉ n.toList)
    (hLong : isLongPath (toString (p.below names)) = false) : (p.below names).IsWritable :=
  ⟨null_not_mem_below h.1 hNull, hLong⟩

end Path

end Coursebook.Files
