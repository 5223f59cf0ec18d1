import Mathlib.Data.List.Induction
import Coursebook.Proofs.Files.Below
import Coursebook.Proofs.Files.Growth

/-!
# Coursebook — changes that succeed

The growth lemmas tell what a change can have done; here is when it has been done. Below a directory
that has been reached, directories can be made down to any path that the system takes, unless a file
is in the way, and files be written into them.

* `ensureDirectories_ok` — directories made one in the other.
* `write_ok` — a file written into a directory.
-/

namespace Coursebook.Files

/-! ## Walking down -/

/-- A walk that goes through passes directories only. -/
theorem Tree.walk_passes {t : Tree} {names : List String} {l k : Location}
    (h : t.walk l names = .ok k) {n : Nat} (hn : n < names.length) :
    t.find? (l.follow (names.take n)) = some .directory := by
  induction names generalizing l n with
  | nil => simp at hn
  | cons name r ih =>
    rw [Tree.walk] at h
    split at h
    · cases h
    · cases h
    · rename_i hDir
      cases n with
      | zero => exact hDir
      | succ n =>
        rw [List.length_cons] at hn
        rw [List.take_succ_cons, Location.follow_cons, Location.enter]
        split at h
        · rw [if_pos ‹_›]
          exact ih h (by omega)
        · split at h
          · cases h
          · rw [if_neg ‹_›]
            exact ih h (by omega)

/-- A path that leads somewhere leads there through directories. -/
theorem Disk.directory_of_locate {d : Disk} {p : Path} {l : Location} (h : d.locate p = .ok l)
    {n : Nat} (hn : n < p.names.length) : d.tree.find? (d.place (p.upTo n)) = some .directory :=
  Tree.walk_passes (Disk.walk_of_locate h) hn

/-- No file stands at a location or on the way down from it. -/
def Tree.IsFree (t : Tree) (l : Location) (names : List String) : Prop :=
  ∀ n c, t.find? (l ++ names.take n) ≠ some (.file c)

/-- Where no file is in the way, directories are all that may be missing. -/
theorem Tree.walk_of_isFree {t : Tree} {names : List String} {l : Location}
    (hNames : ∀ n ∈ names, IsName n) (hFree : t.IsFree l names) :
    t.walk l names = .ok (l ++ names) ∨ t.walk l names = .error .missing := by
  induction names generalizing l with
  | nil =>
    left
    rw [Tree.walk, List.append_nil]
  | cons name r ih =>
    have hName := hNames name List.mem_cons_self
    cases hFind : t.find? l with
    | none =>
      right
      rw [Tree.walk, hFind]
    | some e =>
      cases e with
      | file c => exact absurd (by simpa using hFind) (hFree 0 c)
      | directory =>
        have hRest : t.IsFree (l ++ [name]) r := by
          intro n c
          have hStep := hFree (n + 1) c
          rwa [List.take_succ_cons, List.append_cons] at hStep
        rw [Tree.walk, hFind]
        dsimp only
        rw [if_neg hName.ne_up, hName.short, if_neg Bool.false_ne_true, List.append_cons l name r]
        exact ih (fun n hn => hNames n (List.mem_cons_of_mem name hn)) hRest

/-- One name further from a directory. -/
theorem Disk.locate_below_singleton {d : Disk} {p : Path} {l : Location} (h : d.locate p = .ok l)
    (hDir : d.tree.find? l = some .directory) {name : String} (hName : IsName name)
    (hWritable : (p.below [name]).IsWritable) : d.locate (p.below [name]) = .ok (l ++ [name]) := by
  rw [Disk.locate_below h hWritable, Tree.walk_singleton hDir hName.ne_up hName.short]

/-! ## Making directories -/

theorem Disk.makeDirectory_of_error {d : Disk} {p : Path} {fault : FileFault}
    (h : d.locate p = .error fault) : d.makeDirectory p = .error fault := by
  rw [Disk.makeDirectory, h]
  rfl

/-- A directory that is there stays as it is. -/
theorem ensureDirectory_of_directory {d : Disk} {p : Path} {l : Location}
    (hLocate : d.locate p = .ok l) (hDir : d.tree.find? l = some .directory) :
    (ensureDirectory p).run d = (.ok (), d) := by
  have hMake : d.makeDirectory p = .error .exists_ := by
    simp [Disk.makeDirectory, hLocate, hDir]
  have hIs : d.isDirectory p = .ok true := by
    simp [Disk.isDirectory, Disk.ask, Disk.entry, hLocate, hDir]
  rw [ensureDirectory_run, hMake, hIs]

/-- A directory can be made where no file stands, and is there then. -/
theorem ensureDirectory_ok {d : Disk} {p : Path} {l : Location} (hLocate : d.locate p = .ok l)
    (hFree : ∀ c, d.tree.find? l ≠ some (.file c)) :
    ∃ d', (ensureDirectory p).run d = (.ok (), d') ∧ d'.locate p = .ok l ∧
      d'.tree.find? l = some .directory := by
  cases hFind : d.tree.find? l with
  | none =>
    have hMake : d.makeDirectory p = .ok (d.put l .directory) :=
      Disk.makeDirectory_eq_ok.mpr ⟨l, hLocate, hFind, rfl⟩
    have hGrows : d.GrowsTo (· = l) (fun _ _ => False) (d.put l .directory) :=
      Disk.grows_put_directory rfl hFind
    have hl : l ≠ [] := Tree.ne_nil_of_find? (hFind.trans_ne (by simp))
    rw [ensureDirectory_run, hMake]
    exact ⟨_, rfl, hGrows.locate hLocate, d.find?_put_self hl .directory⟩
  | some e =>
    cases e with
    | file c => exact absurd hFind (hFree c)
    | directory => exact ⟨d, ensureDirectory_of_directory hLocate hFind, hLocate, hFind⟩

/-- Nothing else is made for a path that leads somewhere. -/
theorem ensureDirectories_of_locate {d : Disk} {p : Path} {l : Location}
    (hLocate : d.locate p = .ok l) :
    (ensureDirectories p).run d = (ensureDirectory p).run d := by
  rw [ensureDirectories_run]
  split
  · rename_i hMissing
    rw [Disk.makeDirectory, hLocate] at hMissing
    simp only [bind_ok] at hMissing
    split at hMissing <;> cases hMissing
  · rfl

/-- A directory that is not there is made, and that is all. -/
theorem ensureDirectory_of_none {d : Disk} {p : Path} {l : Location} (hLocate : d.locate p = .ok l)
    (hNone : d.tree.find? l = none) :
    (ensureDirectory p).run d = (.ok (), d.put l .directory) := by
  have hMake : d.makeDirectory p = .ok (d.put l .directory) :=
    Disk.makeDirectory_eq_ok.mpr ⟨l, hLocate, hNone, rfl⟩
  rw [ensureDirectory_run, hMake]

/-- Directories can be made down to a path below a directory, if no file is in the way. -/
theorem ensureDirectories_ok {d : Disk} {p : Path} {l : Location} (hLocate : d.locate p = .ok l)
    {names : List String} (hNames : ∀ n ∈ names, IsName n) (hWritable : (p.below names).IsWritable)
    (hFree : d.tree.IsFree l names) :
    ∃ d', (ensureDirectories (p.below names)).run d = (.ok (), d') ∧
      d'.locate (p.below names) = .ok (l ++ names) ∧
      d'.tree.find? (l ++ names) = some .directory := by
  induction names using List.reverseRecOn with
  | nil =>
    have hNil : d.locate (p.below []) = .ok (l ++ []) := by
      rw [Disk.locate_below hLocate hWritable, List.append_nil]
      rfl
    rw [ensureDirectories_of_locate hNil]
    exact ensureDirectory_ok hNil fun c => hFree 0 c
  | append_singleton names name ih =>
    have hFind (c : Content) : d.tree.find? (l ++ (names ++ [name])) ≠ some (.file c) := by
      have hAll := hFree (names ++ [name]).length c
      rwa [List.take_length] at hAll
    rcases Tree.walk_of_isFree hNames hFree with hWalk | hWalk
    · rw [← Disk.locate_below hLocate hWritable] at hWalk
      rw [ensureDirectories_of_locate hWalk]
      exact ensureDirectory_ok hWalk hFind
    · -- the directory around comes first; from there it is one name further
      rw [← Disk.locate_below hLocate hWritable] at hWalk
      have hSplit := p.below_concat names name
      have hParent : (p.below (names ++ [name])).parent = p.below names := by
        rw [p.parent_below (by simp), List.dropLast_concat]
      have hParentWritable : (p.below names).IsWritable := by
        rw [hSplit] at hWritable
        exact hWritable.of_below
      have hParentFree : d.tree.IsFree l names := by
        intro n c
        have hTake := hFree (min n names.length) c
        rwa [List.take_append_of_le_length (Nat.min_le_right _ _), ← List.take_eq_take_min] at hTake
      obtain ⟨d₁, hRun, hLocate₁, hDir₁⟩ :=
        ih (fun n hn => hNames n (List.mem_append_left _ hn)) hParentWritable hParentFree
      have hGrows := ensureDirectories_grows d (p.below names) fun _ _ => False
      rw [hRun] at hGrows
      -- making the directory around has put no file here
      have hFree₁ (c : Content) : d₁.tree.find? (l ++ (names ++ [name])) ≠ some (.file c) := by
        rcases hGrows.find (l ++ (names ++ [name])) with hSame | ⟨_, _, hMade⟩ | ⟨_, hNo, _⟩
        · rw [hSame]
          exact hFind c
        · rw [hMade]
          simp
        · exact hNo.elim
      have hName : IsName name := hNames name (by simp)
      rw [hSplit] at hWritable
      have hLocate₂ := Disk.locate_below_singleton hLocate₁ hDir₁ hName hWritable
      rw [← hSplit, List.append_assoc] at hLocate₂
      have hNonempty : (p.below (names ++ [name])).names ≠ [] := by simp
      rw [ensureDirectories_run, Disk.makeDirectory_of_error hWalk]
      dsimp only
      rw [if_neg hNonempty, hParent, hRun]
      exact ensureDirectory_ok hLocate₂ hFree₁

/-- A directory that has been made is there. -/
theorem ensureDirectory_reaches {d d' : Disk} {p : Path}
    (h : (ensureDirectory p).run d = (.ok (), d')) :
    d'.locate p = .ok (d.place p) ∧ d'.tree.find? (d.place p) = some .directory := by
  rw [ensureDirectory_run] at h
  split at h
  · rename_i d₁ hMake
    obtain ⟨l, hLocate, hNone, rfl⟩ := Disk.makeDirectory_eq_ok.mp hMake
    have hGrows : d.GrowsTo (· = l) (fun _ _ => False) (d.put l .directory) :=
      Disk.grows_put_directory rfl hNone
    have hl : l ≠ [] := Tree.ne_nil_of_find? (hNone.trans_ne (by simp))
    rw [← (Prod.mk.inj h).2, ← Disk.locate_eq_place hLocate]
    exact ⟨hGrows.locate hLocate, d.find?_put_self hl .directory⟩
  · cases h
  · split at h
    · rename_i hIs
      rw [← (Prod.mk.inj h).2]
      unfold Disk.isDirectory Disk.ask Disk.entry at hIs
      cases hLocate : d.locate p with
      | error fault =>
        simp only [hLocate, bind_error] at hIs
        split at hIs <;> simp_all
      | ok l =>
        rw [← Disk.locate_eq_place hLocate]
        refine ⟨rfl, ?_⟩
        cases hFind : d.tree.find? l <;> simp_all
    · cases h
    · cases h

/-- A directory that has been made with those around it is there. -/
theorem ensureDirectories_reaches {d d' : Disk} {p : Path}
    (h : (ensureDirectories p).run d = (.ok (), d')) :
    d'.locate p = .ok (d.place p) ∧ d'.tree.find? (d.place p) = some .directory := by
  rw [ensureDirectories_run] at h
  split at h
  · split at h
    · cases h
    · -- the directories around do not change which place the path is heading for
      have hGrows := ensureDirectories_grows d p.parent fun _ _ => False
      generalize (ensureDirectories p.parent).run d = run at h hGrows
      obtain ⟨outcome, d₁⟩ := run
      cases outcome with
      | error e => cases h
      | ok _ =>
        have hReached := ensureDirectory_reaches h
        rwa [hGrows.place] at hReached
  · exact ensureDirectory_reaches h

/-! ## Empty directories -/

/-- A directory that is there and empty, or can be made and is empty then. -/
structure Disk.IsVacant (d : Disk) (p : Path) : Prop where
  made : ((ensureDirectories p).run d).1 = .ok ()
  empty : ∀ names, names ≠ [] →
    ((ensureDirectories p).run d).2.tree.find? (d.place p ++ names) = none

/-- An empty directory is vacant. -/
theorem Disk.isVacant_of_directory {d : Disk} {p : Path} {l : Location}
    (hLocate : d.locate p = .ok l) (hDir : d.tree.find? l = some .directory)
    (hEmpty : ∀ names, names ≠ [] → d.tree.find? (l ++ names) = none) : d.IsVacant p := by
  have hRun : (ensureDirectories p).run d = (.ok (), d) := by
    rw [ensureDirectories_of_locate hLocate, ensureDirectory_of_directory hLocate hDir]
  rw [Disk.locate_eq_place hLocate] at hEmpty
  exact ⟨by rw [hRun], by rw [hRun]; exact hEmpty⟩

/-- A directory that can be made is vacant where nothing has been left below it; its path must not go
back, since a directory that is made on the way there could be below it. -/
theorem Disk.isVacant_of_made {d : Disk} {p : Path} (hUp : ".." ∉ p.names)
    (hMade : ((ensureDirectories p).run d).1 = .ok ())
    (hEmpty : ∀ names, names ≠ [] → d.tree.find? (d.place p ++ names) = none) : d.IsVacant p := by
  refine ⟨hMade, fun names hNames => ?_⟩
  rw [← hEmpty names hNames]
  refine (ensureDirectories_grows d p fun _ _ => False).find_eq ?_ fun _ => id
  rintro ⟨n, hn⟩
  -- what is below the path is longer than anything on the way to it
  have hLength := congrArg List.length hn
  have hPos := List.length_pos_iff.mpr hNames
  rw [List.length_append, d.length_place hUp, d.length_place_upTo hUp] at hLength
  omega

/-! ## Writing files -/

/-- A file that has been written is put where its path leads. -/
theorem write_eq_ok {d d' : Disk} {p : Path} {c : Content} (h : (write p c).run d = (.ok (), d')) :
    ∃ l, d.locate p = .ok l ∧ d.tree.find? l ≠ some .directory ∧ d' = d.put l (.file c) := by
  rw [write_run] at h
  split at h
  · cases h
  · rename_i l hLocate
    split at h
    · cases h
    · exact ⟨l, hLocate, by assumption, (Prod.mk.inj h).2.symm⟩

/-- A file can be written into a directory, unless a directory has its name. -/
theorem write_ok {d : Disk} {p : Path} {l : Location} (hLocate : d.locate p = .ok l)
    (hDir : d.tree.find? l = some .directory) {name : String} (hName : IsName name)
    (hWritable : (p.below [name]).IsWritable)
    (hFree : d.tree.find? (l ++ [name]) ≠ some .directory) (c : Content) :
    (write (p.below [name]) c).run d = (.ok (), d.put (l ++ [name]) (.file c)) := by
  rw [write_run, Disk.locate_below_singleton hLocate hDir hName hWritable]
  dsimp only
  split
  · exact absurd ‹_› hFree
  · rfl

end Coursebook.Files
