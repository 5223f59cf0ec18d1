import Coursebook.Files.Disk
import Coursebook.Proofs.Run

/-!
# Coursebook — where a path leads

A path is walked name by name, and the walk fails where a name on the way is not that of a directory.
The place it is heading for, though, can be read off its names alone: `Disk.place` gives it, whatever
stands on the disk. Every result of a walk is at that place, so what can be said about places holds
of every disk.

* `Disk.locate_eq_place` — a path that leads somewhere leads to its place.
* `Disk.place_join` — the place of a path seen from another one.
* `Path.upTo`, `Disk.length_place_upTo` — the way along a path.
* `Tree.walk_append` — a walk in two parts.
* `Tree.walk_mono` — a walk stays possible while its directories stay.
* `Disk.locate_eq_walk` — a path that can be written is walked, and nothing else happens.
-/

namespace Coursebook.Files

/-! ## Places -/

/-- The location that a name leads to from another one. -/
def Location.enter (l : Location) (name : String) : Location :=
  if name = ".." then l.dropLast else l ++ [name]

/-- The location that names lead to from another one, whatever stands on the way. -/
def Location.follow (l : Location) (names : List String) : Location := names.foldl Location.enter l

@[simp] theorem Location.follow_nil (l : Location) : l.follow [] = l := rfl

@[simp] theorem Location.follow_cons (l : Location) (name : String) (r : List String) :
    l.follow (name :: r) = (l.enter name).follow r := rfl

theorem Location.follow_append (l : Location) (a b : List String) :
    l.follow (a ++ b) = (l.follow a).follow b := List.foldl_append

/-- Names that never go back lead down. -/
theorem Location.follow_eq_append {names : List String} (h : ".." ∉ names) (l : Location) :
    l.follow names = l ++ names := by
  induction names generalizing l with
  | nil => simp
  | cons name r ih =>
    rw [List.mem_cons, not_or] at h
    rw [Location.follow_cons, Location.enter, if_neg (Ne.symm h.1), ih h.2, List.append_assoc]
    rfl

/-- The place that a path is heading for. -/
def Disk.place (d : Disk) (p : Path) : Location := (d.start p).follow p.names

/-- The path with only the first names. -/
def Path.upTo (p : Path) (n : Nat) : Path := ⟨p.root, p.names.take n⟩

/-- The path to something below another one. -/
abbrev Path.below (p : Path) (names : List String) : Path := p.join ⟨.relative, names⟩

@[simp] theorem Path.below_root (p : Path) (names : List String) :
    (p.below names).root = p.root := rfl

@[simp] theorem Path.below_names (p : Path) (names : List String) :
    (p.below names).names = p.names ++ names := rfl

theorem Path.below_nil (p : Path) : p.below [] = p := by
  simp [Path.below, Path.join]

/-- A path to something below is one to the directory around it, and one name more. -/
theorem Path.below_concat (p : Path) (names : List String) (name : String) :
    p.below (names ++ [name]) = (p.below names).below [name] := by
  simp [Path.below, Path.join]

theorem Path.parent_below (p : Path) {names : List String} (h : names ≠ []) :
    (p.below names).parent = p.below names.dropLast := by
  simp [Path.parent, Path.join, List.dropLast_append_of_ne_nil h]

theorem Path.upTo_of_length_le {p : Path} {n : Nat} (hn : p.names.length ≤ n) : p.upTo n = p := by
  rw [Path.upTo, List.take_of_length_le hn]

theorem Path.upTo_length (p : Path) : p.upTo p.names.length = p :=
  Path.upTo_of_length_le (Nat.le_refl _)

theorem Path.upTo_parent (p : Path) (n : Nat) :
    p.parent.upTo n = p.upTo (min n (p.names.length - 1)) := by
  simp [Path.upTo, Path.parent, List.dropLast_eq_take, List.take_take]

theorem Path.upTo_below_of_le {p : Path} {names : List String} {n : Nat}
    (hn : n ≤ p.names.length) : (p.below names).upTo n = p.upTo n := by
  simp [Path.upTo, List.take_append_of_le_length hn]

theorem Path.upTo_below_of_ge {p : Path} {names : List String} {n : Nat}
    (hn : p.names.length ≤ n) :
    (p.below names).upTo n = p.below (names.take (n - p.names.length)) := by
  simp only [Path.upTo, Path.below, Path.join, List.take_append]
  rw [List.take_of_length_le hn]

theorem Disk.place_join (d : Disk) (p : Path) (names : List String) :
    d.place (p.below names) = (d.place p).follow names :=
  Location.follow_append _ _ _

/-- Each name on the way along a path that never goes back leads one further down. -/
theorem Disk.length_place_upTo (d : Disk) {p : Path} (hUp : ".." ∉ p.names) (n : Nat) :
    (d.place (p.upTo n)).length = (d.start p).length + min n p.names.length := by
  have hTake : ".." ∉ (p.upTo n).names := fun h => hUp (List.mem_of_mem_take h)
  have hStart : d.start (p.upTo n) = d.start p := rfl
  rw [Disk.place, Location.follow_eq_append hTake, List.length_append, hStart, Path.upTo,
    List.length_take]

theorem Disk.length_place (d : Disk) {p : Path} (hUp : ".." ∉ p.names) :
    (d.place p).length = (d.start p).length + p.names.length := by
  have hAll := d.length_place_upTo hUp p.names.length
  rwa [p.upTo_length, Nat.min_self] at hAll

/-- The place of a path depends on the disk only by its working directory. -/
theorem Disk.place_congr {d d' : Disk} (h : d'.here = d.here) (p : Path) :
    d'.place p = d.place p := by
  unfold Disk.place Disk.start
  rw [h]

/-! ## Walks -/

/-- A walk that goes through ends at the place that its names tell. -/
theorem Tree.walk_eq_follow {t : Tree} {names : List String} {l k : Location}
    (h : t.walk l names = .ok k) : k = l.follow names := by
  induction names generalizing l with
  | nil => simpa [Tree.walk] using h.symm
  | cons name r ih =>
    rw [Tree.walk] at h
    rw [Location.follow_cons, Location.enter]
    split at h
    · cases h
    · cases h
    · split at h
      · rw [if_pos ‹_›]
        exact ih h
      · split at h
        · cases h
        · rw [if_neg ‹_›]
          exact ih h

theorem Tree.walk_append (t : Tree) (l : Location) (a b : List String) :
    t.walk l (a ++ b) = t.walk l a >>= fun k => t.walk k b := by
  induction a generalizing l with
  | nil => rfl
  | cons name r ih =>
    rw [List.cons_append, Tree.walk, Tree.walk]
    split
    · rfl
    · rfl
    · split
      · exact ih _
      · split
        · rfl
        · exact ih _

/-- One name further is a step into a directory. -/
theorem Tree.walk_singleton {t : Tree} {l : Location} {name : String}
    (hDir : t.find? l = some .directory) (hUp : name ≠ "..") (hLong : isLongName name = false) :
    t.walk l [name] = .ok (l ++ [name]) := by
  simp [Tree.walk, hDir, hUp, hLong]

/-- A walk goes through on every tree that has the directories it passes. -/
theorem Tree.walk_mono {t t' : Tree}
    (hDirs : ∀ l, t.find? l = some .directory → t'.find? l = some .directory)
    {names : List String} {l k : Location} (h : t.walk l names = .ok k) :
    t'.walk l names = .ok k := by
  induction names generalizing l with
  | nil => exact h
  | cons name r ih =>
    rw [Tree.walk] at h
    rw [Tree.walk]
    split at h
    · cases h
    · cases h
    · rw [hDirs l ‹_›]
      dsimp only
      split at h
      · rw [if_pos ‹_›]
        exact ih h
      · rw [if_neg ‹_›]
        split at h
        · cases h
        · rw [if_neg ‹_›]
          exact ih h

/-! ## Written paths -/

/-- A path that the system takes: it has no null character and is not too long. -/
def Path.IsWritable (p : Path) : Prop :=
  '\x00' ∉ (toString p).toList ∧ isLongPath (toString p) = false

instance (p : Path) : Decidable p.IsWritable :=
  inferInstanceAs (Decidable (_ ∧ _))

theorem Disk.locate_eq_walk (d : Disk) {p : Path} (h : p.IsWritable) :
    d.locate p = d.tree.walk (d.start p) p.names := by
  have hNull : (toString p).contains '\x00' = false := by
    rw [String.contains_char_eq, decide_eq_false_iff_not]
    exact h.1
  simp [Disk.locate, hNull, h.2]

/-- A path that leads somewhere is one that the system takes. -/
theorem Disk.isWritable_of_locate {d : Disk} {p : Path} {l : Location} (h : d.locate p = .ok l) :
    p.IsWritable := by
  unfold Disk.locate at h
  split at h
  · cases h
  · rename_i hNull
    split at h
    · cases h
    · rename_i hLong
      rw [String.contains_char_eq, decide_eq_true_eq] at hNull
      exact ⟨hNull, Bool.not_eq_true _ ▸ hLong⟩

theorem Disk.walk_of_locate {d : Disk} {p : Path} {l : Location} (h : d.locate p = .ok l) :
    d.tree.walk (d.start p) p.names = .ok l := by
  rw [← d.locate_eq_walk (isWritable_of_locate h)]
  exact h

/-- Below a path that leads somewhere the walk goes on from there. -/
theorem Disk.locate_below {d : Disk} {p : Path} {l : Location} (h : d.locate p = .ok l)
    {names : List String} (hWritable : (p.below names).IsWritable) :
    d.locate (p.below names) = d.tree.walk l names := by
  have hStart : d.start (p.below names) = d.start p := rfl
  rw [d.locate_eq_walk hWritable, hStart, Path.below_names, Tree.walk_append, Disk.walk_of_locate h]
  rfl

/-- A path that leads somewhere leads to its place. -/
theorem Disk.locate_eq_place {d : Disk} {p : Path} {l : Location} (h : d.locate p = .ok l) :
    l = d.place p :=
  Tree.walk_eq_follow (walk_of_locate h)

/-! ## What stands at a path -/

theorem Disk.entry_of_locate {d : Disk} {p : Path} {l : Location} {e : Entry}
    (hLocate : d.locate p = .ok l) (hFind : d.tree.find? l = some e) : d.entry p = .ok e := by
  rw [Disk.entry, hLocate, bind_ok, hFind]

/-- What is at a path stands where the path leads. -/
theorem Disk.entry_eq_ok {d : Disk} {p : Path} {e : Entry} (h : d.entry p = .ok e) :
    d.locate p = .ok (d.place p) ∧ d.tree.find? (d.place p) = some e := by
  unfold Disk.entry at h
  cases hLocate : d.locate p with
  | error fault => simp [hLocate] at h
  | ok l =>
    rw [← Disk.locate_eq_place hLocate]
    rw [hLocate, bind_ok] at h
    cases hFind : d.tree.find? l <;> simp_all

theorem Disk.read_of_entry {d : Disk} {p : Path} {c : Content} (h : d.entry p = .ok (.file c)) :
    d.read p = .ok c := by
  rw [Disk.read, h]

theorem Disk.entry_of_read {d : Disk} {p : Path} {c : Content} (h : d.read p = .ok c) :
    d.entry p = .ok (.file c) := by
  unfold Disk.read at h
  split at h <;> simp_all

/-- Of a place where nothing stands, the answer is no. -/
theorem Disk.ask_of_none {d : Disk} {p : Path} {l : Location} (hLocate : d.locate p = .ok l)
    (hNone : d.tree.find? l = none) (question : Entry → Bool) : d.ask p question = .ok false := by
  have hEntry : d.entry p = .error .missing := by rw [Disk.entry, hLocate, bind_ok, hNone]
  rw [Disk.ask, hEntry]

theorem Disk.ask_of_entry {d : Disk} {p : Path} {e : Entry} (h : d.entry p = .ok e)
    (question : Entry → Bool) : d.ask p question = .ok (question e) := by
  rw [Disk.ask, h]

end Coursebook.Files
