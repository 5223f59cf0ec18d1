import Coursebook.Files.Content

/-!
# Coursebook — file trees

A tree of files and directories, as a list of what stands at which location. The view of a tree is
`Tree.find?`; the order of the list means nothing, and the root is always a directory.

* `find?_put`, `find?_removeAll` say what each change does to the view.
-/

namespace Coursebook.Files

/-- A place in a file tree: the names that lead to it from the root. -/
abbrev Location := List String

/-- What stands at a location. -/
inductive Entry where
  | directory
  | file (content : Content)
  deriving DecidableEq, Repr

/-- A tree of files and directories. -/
structure Tree where
  /-- What stands at each location but the root. -/
  entries : List (Location × Entry) := []
  deriving Repr

namespace Tree

/-- What stands at a location. -/
def find? (t : Tree) (l : Location) : Option Entry :=
  if l = [] then some .directory else t.entries.lookup l

/-- The tree with an entry put at a location. -/
def put (t : Tree) (l : Location) (e : Entry) : Tree :=
  ⟨(l, e) :: t.entries.filter fun x => x.1 != l⟩

/-- The tree without a location and all below it. -/
def removeAll (t : Tree) (l : Location) : Tree :=
  ⟨t.entries.filter fun x => !l.isPrefixOf x.1⟩

/-- What stands below a location. -/
def below (t : Tree) (l : Location) : List (Location × Entry) :=
  t.entries.filter fun x => l.isPrefixOf x.1 && x.1 != l

/-- What stands directly in a directory, with its name. -/
def inDirectory (t : Tree) (l : Location) : List (String × Entry) :=
  t.entries.filterMap fun (k, e) =>
    match k.getLast? with
    | some name => if k.dropLast = l then some (name, e) else none
    | none => none

/-! ## The view after a change -/

theorem lookup_filter {α : Type} (p : Location → Bool) (l : Location) (hp : p l = true)
    (xs : List (Location × α)) : (xs.filter fun x => p x.1).lookup l = xs.lookup l := by
  induction xs with
  | nil => rfl
  | cons x xs ih =>
    obtain ⟨k, e⟩ := x
    by_cases hk : l = k
    · subst hk
      simp [hp]
    · have hb : (l == k) = false := by simp [hk]
      by_cases hpk : p k = true <;> simp [hpk, List.lookup_cons, hb, ih]

theorem lookup_filter_of_not {α : Type} (p : Location → Bool) (l : Location) (hp : p l = false)
    (xs : List (Location × α)) : (xs.filter fun x => p x.1).lookup l = none := by
  induction xs with
  | nil => rfl
  | cons x xs ih =>
    obtain ⟨k, e⟩ := x
    by_cases hk : l = k
    · subst hk
      simpa [List.filter_cons, hp] using ih
    · have hb : (l == k) = false := by simp [hk]
      by_cases hpk : p k = true <;> simp [hpk, List.lookup_cons, hb, ih]

/-- After an entry is put somewhere, it stands there and all else is as before. -/
theorem find?_put (t : Tree) (l k : Location) (e : Entry) (hl : l ≠ []) :
    (t.put l e).find? k = if k = l then some e else t.find? k := by
  unfold find? put
  by_cases hk : k = l
  · subst hk
    simp [hl]
  · by_cases h0 : k = []
    · subst h0
      simp [hk]
    · have hb : (k == l) = false := by simp [hk]
      simp only [h0, if_false, hk, List.lookup_cons, hb]
      exact lookup_filter (fun x => x != l) k (by simp [hk]) t.entries

/-- After a location is removed, nothing stands at it or below, and all else is as before. -/
theorem find?_removeAll (t : Tree) (l k : Location) (hl : l ≠ []) :
    (t.removeAll l).find? k = if l.isPrefixOf k then none else t.find? k := by
  unfold find? removeAll
  by_cases h0 : k = []
  · subst h0
    cases l with
    | nil => exact absurd rfl hl
    | cons a r => rfl
  · simp only [h0, if_false]
    by_cases hp : l.isPrefixOf k = true
    · rw [if_pos hp]
      exact lookup_filter_of_not (fun x => !l.isPrefixOf x) k (by simp [hp]) t.entries
    · rw [if_neg hp]
      exact lookup_filter (fun x => !l.isPrefixOf x) k (by simp [hp]) t.entries

end Tree

end Coursebook.Files
