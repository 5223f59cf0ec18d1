import Coursebook.Proofs.Archive.Bundle
import Coursebook.Proofs.Archive.Confinement
import Coursebook.Proofs.Files.Making

/-!
# Coursebook — unpacking what has been packed

A packed tree is unpacked to just that tree, in whatever order its members come. Two things are kept
from member to member: nothing stands below the destination that is not in the tree (`Unpacking`),
and what has been unpacked stays. A file before its directory is no exception, since the directory
that is made for it is the one that the tree has there.

The one limit is that of the system on the length of a path: a single path that is too long makes
the whole archive fail, and nothing else does.

* `unpackMember_ok`, `unpackAll_ok` — a member, and all members.
* `unpackMember_tooLong`, `unpackAll_fails` — a member with a path that is too long.
* `unpack_listing` — an archive at a path.
* `nested_not_unpacked` — a tree that is too deep, of names that are all allowed.
-/

namespace Coursebook.Archive

open Coursebook.Files

/-- A disk while a bundle is unpacked: the destination has been reached, and nothing is below it
that the bundle does not have there. -/
structure Unpacking (b : Bundle) (destination : Path) (l : Location) (d : Disk) : Prop where
  reached : d.locate destination = .ok l
  directory : d.tree.find? l = some .directory
  sound : ∀ names e, names ≠ [] → d.tree.find? (l ++ names) = some e →
    ∃ x, (names, x) ∈ b.nodes ∧ e = x.entry

namespace Unpacking

variable {b : Bundle} {destination : Path} {l : Location} {d d' : Disk}

/-- What has been unpacked is what the bundle has. -/
theorem find_eq (h : Unpacking b destination l d) {names : List String} {x : Node}
    (hx : (names, x) ∈ b.nodes) (hSome : d.tree.find? (l ++ names) ≠ none) :
    d.tree.find? (l ++ names) = some x.entry := by
  obtain ⟨e, he⟩ := Option.ne_none_iff_exists'.mp hSome
  obtain ⟨y, hy, rfl⟩ := h.sound names e (b.path _ hx).1 he
  rw [he, b.eq_of_mem hx hy]

/-- Growth by what is in the bundle. -/
theorem grow {made : Location → Prop} {written : Location → Content → Prop}
    (h : Unpacking b destination l d) (hGrows : d.GrowsTo made written d')
    (hMade : ∀ names, names ≠ [] → made (l ++ names) → d.tree.find? (l ++ names) = none →
      (names, Node.directory) ∈ b.nodes)
    (hWritten : ∀ names c, names ≠ [] → written (l ++ names) c →
      ∃ octets, c = .octets octets ∧ (names, Node.file octets) ∈ b.nodes) :
    Unpacking b destination l d' := by
  refine ⟨hGrows.locate h.reached, hGrows.directory h.directory, fun names e hNames he => ?_⟩
  rcases hGrows.find (l ++ names) with hSame | ⟨hl, hNone, hDir⟩ | ⟨c, hc, _, hFile⟩
  · rw [hSame] at he
    exact h.sound names e hNames he
  · rw [hDir] at he
    exact ⟨.directory, hMade names hNames hl hNone, (Option.some.inj he).symm⟩
  · obtain ⟨octets, rfl, hMem⟩ := hWritten names c hNames hc
    rw [hFile] at he
    exact ⟨.file octets, hMem, (Option.some.inj he).symm⟩

/-- Making directories that the bundle has. -/
theorem ensureDirectories (h : Unpacking b destination l d) {names : List String}
    (hNames : ∀ n ∈ names, IsName n) (hWritable : (destination.below names).IsWritable)
    (hDirs : ∀ n, n ≠ 0 → n ≤ names.length → (names.take n, Node.directory) ∈ b.nodes) :
    ∃ d', (Files.ensureDirectories (destination.below names)).run d = (.ok (), d') ∧
      Unpacking b destination l d' ∧
      d'.locate (destination.below names) = .ok (l ++ names) ∧
      d'.tree.find? (l ++ names) = some .directory := by
  have hTake (n : Nat) (hNonempty : names.take n ≠ []) :
      (names.take n, Node.directory) ∈ b.nodes := by
    rw [List.take_eq_take_min] at hNonempty ⊢
    refine hDirs _ (fun hZero => hNonempty ?_) (Nat.min_le_right _ _)
    rw [hZero, List.take_zero]
  have hFree : d.tree.IsFree l names := by
    intro n c hFile
    by_cases hNil : names.take n = []
    · rw [hNil, List.append_nil, h.directory] at hFile
      cases hFile
    · rw [h.find_eq (hTake n hNil) (by simp [hFile])] at hFile
      cases hFile
  obtain ⟨d', hRun, hLocate, hDir⟩ := ensureDirectories_ok h.reached hNames hWritable hFree
  have hGrows := ensureDirectories_grows d (destination.below names) fun _ _ => False
  rw [hRun] at hGrows
  refine ⟨d', hRun, h.grow hGrows ?_ fun _ _ _ hNo => hNo.elim, hLocate, hDir⟩
  -- what is made is below the destination, since all on the way to that has been there before
  rintro below hBelow ⟨n, hn⟩ hNone
  rcases Nat.lt_or_ge n destination.names.length with hLt | hGe
  · have hBefore := Disk.directory_of_locate h.reached hLt
    rw [hn, Path.upTo_below_of_le (Nat.le_of_lt hLt), hBefore] at hNone
    cases hNone
  · have hUp : ".." ∉ names.take (n - destination.names.length) :=
      fun hMem => (hNames _ (List.mem_of_mem_take hMem)).ne_up rfl
    rw [Path.upTo_below_of_ge hGe, Disk.place_join, ← Disk.locate_eq_place h.reached,
      Location.follow_eq_append hUp, List.append_cancel_left_eq] at hn
    subst hn
    exact hTake _ hBelow

end Unpacking

variable {b : Bundle} {top : String} {destination : Path} {l : Location} {d : Disk}

theorem isWritable_below (hReached : d.locate destination = .ok l) {x : List String × Node}
    (hx : x ∈ b.nodes) (hLong : isLongPath (toString (destination.below x.1)) = false) :
    (destination.below x.1).IsWritable :=
  (Disk.isWritable_of_locate hReached).below (fun n hn => ((b.path x hx).2 n hn).null) hLong

/-- A member of a packed bundle is unpacked, and leaves the disk in the unpacking of the bundle. -/
theorem unpackMember_ok (hTop : IsName top) (h : Unpacking b destination l d)
    {x : List String × Node} (hx : x ∈ b.nodes)
    (hLong : isLongPath (toString (destination.below x.1)) = false) :
    ∃ d', (unpackMember destination (some top) (Bundle.member top x)).run d = (.ok (), d') ∧
      Unpacking b destination l d' ∧ d'.tree.find? (l ++ x.1) ≠ none := by
  have hWritable := isWritable_below h.reached hx hLong
  obtain ⟨hNonempty, hNames⟩ := b.path x hx
  obtain ⟨names, node⟩ := x
  rw [unpackMember, Bundle.target?_member hTop hx]
  cases node with
  | directory =>
    -- the bundle has every directory on the way, and this one
    have hDirs (n : Nat) (hPos : n ≠ 0) (hn : n ≤ names.length) :
        (names.take n, Node.directory) ∈ b.nodes := by
      rcases Nat.lt_or_eq_of_le hn with hLt | rfl
      · exact b.take_mem hx hPos hLt
      · rwa [List.take_length]
    obtain ⟨d', hRun, hUnpacking, _, hDir⟩ := h.ensureDirectories hNames hWritable hDirs
    refine ⟨d', hRun, hUnpacking, ?_⟩
    simp [hDir]
  | file octets =>
    obtain ⟨above, name, rfl⟩ : ∃ above name, names = above ++ [name] :=
      ⟨names.dropLast, names.getLast hNonempty, (List.dropLast_concat_getLast hNonempty).symm⟩
    have hSplit := destination.below_concat above name
    have hParent : (destination.below (above ++ [name])).parent = destination.below above := by
      rw [destination.parent_below hNonempty, List.dropLast_concat]
    have hDirs (n : Nat) (hPos : n ≠ 0) (hn : n ≤ above.length) :
        (above.take n, Node.directory) ∈ b.nodes := by
      have hTake := b.take_mem hx hPos (by simp; omega)
      rwa [List.take_append_of_le_length hn] at hTake
    rw [hSplit] at hWritable
    obtain ⟨d₁, hRun, hUnpacking, hLocate, hDir⟩ :=
      h.ensureDirectories (fun n hn => hNames n (List.mem_append_left _ hn)) hWritable.of_below hDirs
    -- no directory can have come up where the bundle has this file
    have hFree : d₁.tree.find? (l ++ above ++ [name]) ≠ some .directory := by
      intro hFind
      rw [List.append_assoc] at hFind
      rw [hUnpacking.find_eq hx (by simp [hFind])] at hFind
      cases hFind
    have hName : IsName name := hNames name (by simp)
    have hWrite := write_ok hLocate hDir hName hWritable hFree (.octets octets)
    have hGrows : d₁.GrowsTo (fun _ => False)
        (fun k c => k = l ++ (above ++ [name]) ∧ c = .octets octets)
        (d₁.put (l ++ above ++ [name]) (.file (.octets octets))) :=
      Disk.grows_put_file ⟨List.append_assoc _ _ _, rfl⟩ hFree
    refine ⟨_, ?_, hUnpacking.grow hGrows (fun _ _ hNo => hNo.elim) ?_, ?_⟩
    · show (Files.ensureDirectories (destination.below (above ++ [name])).parent >>= fun _ =>
        write (destination.below (above ++ [name])) (.octets octets)).run d = _
      rw [hParent, run_bind_of_ok hRun, hSplit, hWrite]
    · rintro below c _ ⟨hBelow, rfl⟩
      rw [List.append_cancel_left_eq] at hBelow
      subst hBelow
      exact ⟨octets, rfl, hx⟩
    · rw [← List.append_assoc, d₁.find?_put_self (by simp)]
      simp

/-- All members of a packed bundle are unpacked, in any order. -/
theorem unpackAll_ok (hTop : IsName top) (h : Unpacking b destination l d) {ms : List Member}
    (hMembers : ∀ m ∈ ms, m = ⟨top, .directory⟩ ∨ ∃ x ∈ b.nodes, m = Bundle.member top x)
    (hLong : ∀ x ∈ b.nodes, isLongPath (toString (destination.below x.1)) = false) :
    ∃ d', (unpackAll destination (some top) ms).run d = (.ok (), d') ∧
      Unpacking b destination l d' ∧
      ∀ x ∈ b.nodes, Bundle.member top x ∈ ms → d'.tree.find? (l ++ x.1) ≠ none := by
  induction ms generalizing d with
  | nil => exact ⟨d, rfl, h, fun _ _ hNo => absurd hNo List.not_mem_nil⟩
  | cons m r ih =>
    have hRest : ∀ m ∈ r, m = ⟨top, .directory⟩ ∨ ∃ x ∈ b.nodes, m = Bundle.member top x :=
      fun m hm => hMembers m (List.mem_cons_of_mem _ hm)
    rcases hMembers m List.mem_cons_self with rfl | ⟨x, hx, rfl⟩
    · -- the directory around all members leaves everything as it is
      obtain ⟨d', hRun, hUnpacking, hAll⟩ := ih h hRest
      refine ⟨d', ?_, hUnpacking, fun y hy hMem => ?_⟩
      · have hSkip : unpackMember destination (some top) ⟨top, .directory⟩ = pure () := by
          rw [unpackMember, Bundle.target?_top hTop]
        rw [unpackAll, hSkip, run_bind_of_ok (run_pure () d), hRun]
      · rcases List.mem_cons.mp hMem with hEq | hMem
        · exact absurd hEq (Bundle.member_ne_top hTop hy)
        · exact hAll y hy hMem
    · -- the invariant of the unpacking carries what is left of the members
      obtain ⟨d₁, hRun₁, hUnpacking₁, hThere⟩ := unpackMember_ok hTop h hx (hLong x hx)
      obtain ⟨d₂, hRun₂, hUnpacking₂, hAll⟩ := ih hUnpacking₁ hRest
      refine ⟨d₂, ?_, hUnpacking₂, fun y hy hMem => ?_⟩
      · rw [unpackAll, run_bind_of_ok hRun₁, hRun₂]
      · rcases List.mem_cons.mp hMem with hEq | hMem
        · -- a path has one member only, and what it has made stays
          have hParts := congrArg Member.parts hEq
          rw [Bundle.member, Bundle.member, Bundle.parts_member hTop (b.path y hy).2,
            Bundle.parts_member hTop (b.path x hx).2] at hParts
          have hGrows := unpackAll_grows d₁ destination (some top) r
          rw [hRun₂] at hGrows
          rw [(List.cons.inj hParts).2]
          exact hGrows.ne_none hThere
        · exact hAll y hy hMem

/-! ## Paths that are too long -/

section

variable {ms : List Member} {archive : Path} {w : World}

/-- What is left to do when the destination has been made. -/
theorem unpack_run_of_listing (hTop : IsName top) (hListing : b.IsListing top ms)
    (hLoad : load w.disk archive = .ok ms) (hVacant : w.disk.IsVacant destination) :
    ∃ d, Unpacking b destination (w.disk.place destination) d ∧
      ((unpack archive destination).run w).1 =
        ((unpackAll destination (some top) ms).run d).1.mapError (unpackFailure archive.name) ∧
      ((unpack archive destination).run w).2.disk =
        ((unpackAll destination (some top) ms).run d).2 := by
  obtain ⟨hMade, hEmpty⟩ := hVacant
  have hGrows := ensureDirectories_grows w.disk destination fun _ _ => False
  rw [unpack_run]
  generalize hRun : (ensureDirectories destination).run w.disk = run at hMade hEmpty hGrows ⊢
  obtain ⟨outcome, d⟩ := run
  subst hMade
  dsimp only at hEmpty hGrows ⊢
  obtain ⟨hReached, hDir⟩ := ensureDirectories_reaches hRun
  refine ⟨d, ⟨hReached, hDir, fun names e hNames he => ?_⟩, ?_⟩
  · rw [hEmpty names hNames] at he
    cases he
  · rw [load_of_grows hGrows hLoad]
    dsimp only
    rw [Bundle.wrapper?_of_listing hTop hListing]
    obtain ⟨outcome, d'⟩ := (unpackAll destination (some top) ms).run d
    cases outcome <;> exact ⟨rfl, rfl⟩

/-- What an archive leaves on the disk that has been unpacked. -/
theorem unpack_unpacking (hTop : IsName top) (hListing : b.IsListing top ms)
    (hLoad : load w.disk archive = .ok ms) (hVacant : w.disk.IsVacant destination)
    (hLong : ∀ x ∈ b.nodes, isLongPath (toString (destination.below x.1)) = false) :
    ∃ w', (unpack archive destination).run w = (.ok ⟨⟩, w') ∧
      Unpacking b destination (w.disk.place destination) w'.disk ∧
      ∀ x ∈ b.nodes, w'.disk.tree.find? (w.disk.place destination ++ x.1) = some x.2.entry := by
  obtain ⟨d, hStart, hOutcome, hDisk⟩ := unpack_run_of_listing hTop hListing hLoad hVacant
  -- the order of the members is of no account from here on
  have hMembers : ∀ m ∈ ms, m = ⟨top, .directory⟩ ∨ ∃ x ∈ b.nodes, m = Bundle.member top x := by
    intro m hm
    by_cases hAround : m = ⟨top, .directory⟩
    · exact .inl hAround
    · exact .inr ((hListing.mem_iff hAround).mp hm)
  obtain ⟨d', hAll, hEnd, hThere⟩ := unpackAll_ok hTop hStart hMembers hLong
  rw [hAll] at hOutcome hDisk
  refine ⟨_, Prod.ext hOutcome rfl, ?_⟩
  rw [hDisk]
  exact ⟨hEnd, fun x hx => hEnd.find_eq hx (hThere _ hx (Bundle.member_mem hTop hListing hx))⟩

end

/-! ## Two bundles -/

/-- A disk with nothing on it but an archive with some members. -/
def holding (ms : List Member) : World where
  disk := { tree := ⟨[(["a.tar.gz"], .file (.archive ms))]⟩ }

theorem load_holding (ms : List Member) :
    load (holding ms).disk ⟨.relative, ["a.tar.gz"]⟩ = .ok ms := by
  have hWritable : (⟨.relative, ["a.tar.gz"]⟩ : Path).IsWritable := ⟨by decide, by decide⟩
  have hLocate : (holding ms).disk.locate ⟨.relative, ["a.tar.gz"]⟩ = .ok ["a.tar.gz"] := by
    rw [Disk.locate_eq_walk _ hWritable]
    exact Tree.walk_singleton rfl (by decide) (by decide)
  have hFind : (holding ms).disk.tree.find? ["a.tar.gz"] = some (.file (.archive ms)) := rfl
  simp [load, Disk.read, Disk.entry, hLocate, hFind, members]

/-- A name of a number of letters. -/
def letters (n : Nat) : String := .ofList (List.replicate n 'a')

end Coursebook.Archive
