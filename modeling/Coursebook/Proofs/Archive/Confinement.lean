import Coursebook.Archive.Unpack
import Coursebook.Proofs.Conversion.World
import Coursebook.Proofs.Files.Growth

/-!
# Coursebook — unpacking stays inside

Whatever an archive holds, unpacking it changes nothing outside the destination. The parts of a
member's name are checked after the directory around all members has been taken off, so the argument
does not depend on what that directory is called: the names that are left never go back
(`Member.target?_eq_some`), and such names lead down from wherever they start
(`Location.follow_eq_append`).

* `unpackMember_writes`, `unpackMember_grows` — a single member, unpacked or failed.
* `unpackAll_grows` — a list of members, up to the first that fails.
* `unpack_run_iff` — the ways in which unpacking an archive can end.
* `unpack_confined` — an archive at a path, in any state of the disk.
-/

namespace Coursebook.Archive

open Coursebook.Files

/-! ## Where members go -/

/-- The names that a member is unpacked under: at least one, and none that goes back. -/
theorem Member.target?_eq_some {wrapper : Option String} {m : Member} {names : List String}
    (h : m.target? wrapper = some names) : names ≠ [] ∧ ".." ∉ names := by
  unfold Member.target? at h
  extract_lets kept at h
  split at h
  · cases h
  · rename_i hUnsafe
    rw [not_or, not_or] at hUnsafe
    rw [← Option.some.inj h]
    exact ⟨hUnsafe.1, hUnsafe.2.2⟩

/-- A place that unpacking may make a directory of: at or below the destination, or on the way to
it. -/
def OnTheWay (d : Disk) (destination : Path) (l : Location) : Prop :=
  d.place destination <+: l ∨ ∃ n, l = d.place (destination.upTo n)

/-- A place strictly below the destination. -/
def Inside (d : Disk) (destination : Path) (l : Location) : Prop :=
  ∃ names, names ≠ [] ∧ l = d.place destination ++ names

/-- A content that one of the regular files among members has. -/
def IsUnpacked (members : List Member) (c : Content) : Prop :=
  ∃ m ∈ members, ∃ octets, m.kind = .file octets ∧ c = .octets octets

/-- The directories around something below the destination are below it or around it. -/
theorem onTheWay_of_below {d : Disk} {destination : Path} {names : List String} (hUp : ".." ∉ names)
    (n : Nat) : OnTheWay d destination (d.place ((destination.below names).upTo n)) := by
  rcases Nat.le_total n destination.names.length with hn | hn
  · right
    exact ⟨n, by rw [Path.upTo_below_of_le hn]⟩
  · left
    rw [Path.upTo_below_of_ge hn, Disk.place_join,
      Location.follow_eq_append fun h => hUp (List.mem_of_mem_take h)]
    exact List.prefix_append _ _

/-- Of a member nothing is written but its file, where it is unpacked. -/
theorem unpackMember_writes (d : Disk) (destination : Path) (wrapper : Option String) (m : Member) :
    d.GrowsTo (OnTheWay d destination)
      (fun l c => ∃ names octets, m.target? wrapper = some names ∧ m.kind = .file octets ∧
        l = d.place destination ++ names ∧ c = .octets octets)
      ((unpackMember destination wrapper m).run d).2 := by
  unfold unpackMember
  split
  · exact .refl d
  · rename_i names hTarget
    obtain ⟨hNames, hUp⟩ := Member.target?_eq_some hTarget
    dsimp only
    split
    · exact .refl d
    · refine (ensureDirectories_grows d _ _).mono ?_ fun _ _ h => h
      rintro l ⟨n, hl⟩
      rw [hl]
      exact onTheWay_of_below hUp n
    · rename_i octets hKind
      -- a file: the directories around it, then the file itself
      rw [destination.parent_below hNames]
      refine run_bind_keeps .trans ((ensureDirectories_grows d _ _).mono ?_ fun _ _ h => h)
        fun _ d₁ _ hMade => (write_grows d₁ _ _ _).mono (fun _ h => h) ?_
      · rintro l ⟨n, hl⟩
        rw [hl]
        exact onTheWay_of_below (fun h => hUp (List.dropLast_subset _ h)) n
      · rintro l c ⟨hl, hc⟩
        rw [hMade.place, Disk.place_join, Location.follow_eq_append hUp] at hl
        exact ⟨names, octets, hTarget, hKind, hl, hc⟩

theorem unpackMember_grows (d : Disk) (destination : Path) (wrapper : Option String) (m : Member) :
    d.GrowsTo (OnTheWay d destination)
      (fun l c => Inside d destination l ∧ IsUnpacked [m] c)
      ((unpackMember destination wrapper m).run d).2 := by
  refine (unpackMember_writes d destination wrapper m).mono (fun _ h => h) ?_
  rintro l c ⟨names, octets, hTarget, hKind, hl, hc⟩
  have hNames := (Member.target?_eq_some hTarget).1
  exact ⟨⟨names, hNames, hl⟩, m, List.mem_singleton_self m, octets, hKind, hc⟩

/-- Unpacking stays inside also when it fails half way: each member keeps what the last one left. -/
theorem unpackAll_grows (d : Disk) (destination : Path) (wrapper : Option String)
    (members : List Member) :
    d.GrowsTo (OnTheWay d destination)
      (fun l c => Inside d destination l ∧ IsUnpacked members c)
      ((unpackAll destination wrapper members).run d).2 := by
  induction members generalizing d with
  | nil => exact .refl d
  | cons m r ih =>
    have hOne : d.GrowsTo (OnTheWay d destination)
        (fun l c => Inside d destination l ∧ IsUnpacked (m :: r) c)
        ((unpackMember destination wrapper m).run d).2 := by
      refine (unpackMember_grows d destination wrapper m).mono (fun _ h => h) ?_
      rintro l c ⟨hl, m', hm', hc⟩
      rw [List.mem_singleton] at hm'
      exact ⟨hl, m', hm' ▸ List.mem_cons_self, hc⟩
    rw [unpackAll, run_bind]
    cases hRun : (unpackMember destination wrapper m).run d with
    | mk outcome d₁ =>
      rw [hRun] at hOne
      cases outcome with
      | error e => exact hOne
      | ok _ =>
        refine hOne.trans ((ih d₁).mono (fun l hl => ?_) fun l c => ?_)
        · simpa only [OnTheWay, hOne.place] using hl
        · rintro ⟨hl, m', hm', hc⟩
          refine ⟨?_, m', List.mem_cons_of_mem m hm', hc⟩
          simpa only [Inside, hOne.place] using hl

/-- Members of which nothing is made can be left out. -/
theorem unpackAll_filter {destination : Path} {wrapper : Option String} {members : List Member}
    {keep : Member → Bool}
    (h : ∀ m ∈ members, keep m = false → unpackMember destination wrapper m = pure ()) :
    unpackAll destination wrapper members =
      unpackAll destination wrapper (members.filter keep) := by
  induction members with
  | nil => rfl
  | cons m r ih =>
    rw [unpackAll, ih fun m' hm' => h m' (List.mem_cons_of_mem _ hm'), List.filter_cons]
    by_cases hKeep : keep m = true
    · rw [if_pos hKeep, unpackAll]
    · rw [if_neg hKeep, h m List.mem_cons_self (Bool.eq_false_iff.mpr hKeep), pure_bind]

theorem unpackMember_of_target? {destination : Path} {wrapper : Option String} {m : Member}
    (h : m.target? wrapper = none) : unpackMember destination wrapper m = pure () := by
  rw [unpackMember, h]

/-- Nothing is made of a link or a special file, nor on the way to it. -/
theorem unpackMember_of_other (destination : Path) (wrapper : Option String) {m : Member}
    (hKind : m.kind = .other) : unpackMember destination wrapper m = pure () := by
  unfold unpackMember
  split
  · rfl
  · simp [hKind]

/-- Links and special files are passed over, with nothing made on the way to them. -/
theorem unpackAll_without_links (destination : Path) (wrapper : Option String)
    (members : List Member) :
    unpackAll destination wrapper members =
      unpackAll destination wrapper (members.filter (·.kind != .other)) :=
  unpackAll_filter fun _ _ hOther =>
    unpackMember_of_other destination wrapper (by simpa using hOther)

/-! ## Archives -/

/-- A content that one of the regular files in the archive at a path has. -/
def IsPacked (d : Disk) (archive : Path) (c : Content) : Prop :=
  ∃ members, load d archive = .ok members ∧ IsUnpacked members c

/-- The members of an archive are the same while no file is written. -/
theorem load_of_grows {made : Location → Prop} {d d' : Disk} {archive : Path} {ms : List Member}
    (h : d.GrowsTo made (fun _ _ => False) d') (hLoad : load d archive = .ok ms) :
    load d' archive = .ok ms := by
  unfold load at hLoad ⊢
  cases hRead : d.read archive with
  | error e => simp [hRead] at hLoad
  | ok content =>
    rw [hRead] at hLoad
    rwa [h.read hRead]

theorem unpack_run (archive destination : Path) (w : World) :
    (unpack archive destination).run w =
      match (ensureDirectories destination).run w.disk with
      | (.error e, d) => (.error (.file e), { w with disk := d })
      | (.ok _, d) =>
        match load d archive with
        | .error e => (.error e, { w with disk := d })
        | .ok members =>
          match (unpackAll destination (wrapper? members) members).run d with
          | (.error e, d) => (.error (unpackFailure archive.name e), { w with disk := d })
          | (.ok _, d) => (.ok ⟨⟩, ⟨d, w.notices ++ [.unpacked destination]⟩) := by
  rw [unpack, run_bind, World.change_run]
  obtain ⟨made, d⟩ := (ensureDirectories destination).run w.disk
  cases made with
  | error e => rfl
  | ok _ =>
    simp only [mapError_ok]
    rw [run_bind, World.getDisk_run]
    dsimp only
    cases load d archive with
    | error e => rfl
    | ok members =>
      dsimp only
      rw [run_bind]
      have hUnpacking : (unpacking archive.name
          (unpackAll destination (wrapper? members) members)).run { w with disk := d } =
        (((unpackAll destination (wrapper? members) members).run d).1.mapError
          (unpackFailure archive.name),
          { w with disk := ((unpackAll destination (wrapper? members) members).run d).2 }) := rfl
      rw [hUnpacking]
      obtain ⟨outcome, d₂⟩ := (unpackAll destination (wrapper? members) members).run d
      cases outcome <;> rfl

/-- The ways in which unpacking an archive can end, each with what it leaves. -/
inductive Unpacks (archive destination : Path) (w : World) : Except Failure Unit × World → Prop where
  /-- The destination cannot be made. -/
  | unmade {e : FileError} {d : Disk}
      (hMade : (ensureDirectories destination).run w.disk = (.error e, d)) :
      Unpacks archive destination w (.error (.file e), { w with disk := d })
  /-- The members cannot be read. -/
  | unread {d : Disk} {e : Failure}
      (hMade : (ensureDirectories destination).run w.disk = (.ok (), d))
      (hLoad : load d archive = .error e) :
      Unpacks archive destination w (.error e, { w with disk := d })
  /-- A member cannot be unpacked. -/
  | partly {d d' : Disk} {ms : List Member} {e : FileError}
      (hMade : (ensureDirectories destination).run w.disk = (.ok (), d))
      (hLoad : load d archive = .ok ms)
      (hAll : (unpackAll destination (wrapper? ms) ms).run d = (.error e, d')) :
      Unpacks archive destination w (.error (unpackFailure archive.name e), { w with disk := d' })
  /-- All members are unpacked. -/
  | all {d d' : Disk} {ms : List Member}
      (hMade : (ensureDirectories destination).run w.disk = (.ok (), d))
      (hLoad : load d archive = .ok ms)
      (hAll : (unpackAll destination (wrapper? ms) ms).run d = (.ok (), d')) :
      Unpacks archive destination w (.ok (), ⟨d', w.notices ++ [.unpacked destination]⟩)

theorem unpack_run_iff {archive destination : Path} {w : World} {x : Except Failure Unit × World} :
    (unpack archive destination).run w = x ↔ Unpacks archive destination w x := by
  rw [unpack_run]
  constructor
  · rintro rfl
    rcases hMade : (ensureDirectories destination).run w.disk with ⟨made, d⟩
    cases made with
    | error e => exact .unmade hMade
    | ok _ =>
      dsimp only
      cases hLoad : load d archive with
      | error e => exact .unread hMade hLoad
      | ok ms =>
        dsimp only
        rcases hAll : (unpackAll destination (wrapper? ms) ms).run d with ⟨outcome, d'⟩
        cases outcome with
        | error e => exact .partly hMade hLoad hAll
        | ok _ => exact .all hMade hLoad hAll
  · intro h
    cases h with
    | unmade hMade => rw [hMade]
    | unread hMade hLoad => simp only [hMade, hLoad]
    | partly hMade hLoad hAll => simp only [hMade, hLoad, hAll]
    | all hMade hLoad hAll => simp only [hMade, hLoad, hAll]

/--
**Unpacking is confined.** Whatever the archive holds and however unpacking it ends, a directory is
made only at or below the destination or, where one is missing, on the way to it; a file is written
only below the destination, with the octets of one of the archive's regular files; and nothing is
taken away. Links and special files leave no trace at all.
-/
theorem unpack_confined (archive destination : Path) (w : World) :
    w.disk.GrowsTo (OnTheWay w.disk destination)
      (fun l c => Inside w.disk destination l ∧
        IsPacked ((ensureDirectories destination).run w.disk).2 archive c)
      ((unpack archive destination).run w).2.disk ∧
    ∀ wrapper members, unpackAll destination wrapper members =
      unpackAll destination wrapper (members.filter (·.kind != .other)) := by
  refine ⟨?_, unpackAll_without_links destination⟩
  -- the destination is made first, also where the archive turns out to be of no use
  have hMade : w.disk.GrowsTo (OnTheWay w.disk destination)
      (fun l c => Inside w.disk destination l ∧
        IsPacked ((ensureDirectories destination).run w.disk).2 archive c)
      ((ensureDirectories destination).run w.disk).2 :=
    (ensureDirectories_grows w.disk destination _).mono (fun _ h => .inr h) fun _ _ h => h
  rw [unpack_run]
  generalize (ensureDirectories destination).run w.disk = run at hMade ⊢
  obtain ⟨made, d⟩ := run
  cases made with
  | error e => exact hMade
  | ok _ =>
    dsimp only at hMade ⊢
    cases hLoad : load d archive with
    | error e => exact hMade
    | ok members =>
      dsimp only
      -- every member starts from the disk that making the destination has left
      have hMembers := hMade.trans ((unpackAll_grows d destination (wrapper? members) members).mono
        (fun l hl => ?made) fun l c h => ?written)
      case made => simpa only [OnTheWay, hMade.place] using hl
      case written =>
        exact ⟨by simpa only [Inside, hMade.place] using h.1, members, hLoad, h.2⟩
      generalize (unpackAll destination (wrapper? members) members).run d = run at hMembers ⊢
      obtain ⟨outcome, d₂⟩ := run
      cases outcome <;> exact hMembers

end Coursebook.Archive
