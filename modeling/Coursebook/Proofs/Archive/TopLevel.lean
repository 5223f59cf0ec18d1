import Mathlib
import Coursebook.Proofs.Archive.Packing

/-!
# Coursebook — files at the top of an archive

Members are unpacked one after the other, so where several are unpacked at one place, the last of them
stands there (`unpackAll_last`). A file at the top of an archive, with no directory around it, is
unpacked under its own name, unless this is taken for the directory around all members. Where all
members are of this name it is not; but beside a member that comes to nothing, or one below the file, it
is.

* `unpackAll_last` — what stands where a member has been unpacked.
* `unpack_topFile` — which files at the top of an archive are unpacked, and which are passed over.
* `lone_file_taken_for_wrapper` — a file beside a member for the directory that it is in.
-/

namespace Coursebook.Archive

open Coursebook.Files

variable {destination : Path} {wrapper : Option String} {names : List String} {name : String}

/-- The octets of a regular file. -/
def Member.octets? (m : Member) : Option (List UInt8) :=
  match m.kind with
  | .file octets => some octets
  | _ => none

/-- The octets that a member is unpacked with under some names, if it is a file. -/
def Member.fileAt? (wrapper : Option String) (names : List String) (m : Member) :
    Option (List UInt8) :=
  if m.target? wrapper = some names then m.octets? else none

/-- The octets of a file at the top of an archive that has a name. -/
def Member.topFile? (name : String) (m : Member) : Option (List UInt8) :=
  if m.parts = [name] then m.octets? else none

/-- Whether the members show that a name at the top is that of a file: one of them is not of this name
nor below it, or all of them are just of this name. -/
def ShowsFile (name : String) (ms : List Member) : Prop :=
  (∃ m ∈ ms, ∃ first ∈ m.parts.head?, first ≠ name) ∨ ∀ m ∈ ms, m.parts = [name]

/-! ## The last file at a place -/

theorem Member.octets?_eq_some {m : Member} {octets : List UInt8} :
    m.octets? = some octets ↔ m.kind = .file octets := by
  unfold Member.octets?
  split <;> simp_all

theorem Member.fileAt?_eq_some {m : Member} {octets : List UInt8} :
    m.fileAt? wrapper names = some octets ↔
      m.target? wrapper = some names ∧ m.kind = .file octets := by
  rw [Member.fileAt?, ← Member.octets?_eq_some]
  split <;> simp_all

/-- A file that has been unpacked stands at its place. -/
theorem unpackMember_file {d d' : Disk} {m : Member} {octets : List UInt8}
    (hTarget : m.target? wrapper = some names) (hKind : m.kind = .file octets)
    (hRun : (unpackMember destination wrapper m).run d = (.ok (), d')) :
    d'.tree.find? (d.place destination ++ names) = some (.file (.octets octets)) := by
  obtain ⟨hNames, hUp⟩ := Member.target?_eq_some hTarget
  simp only [unpackMember, hTarget, hKind] at hRun
  obtain ⟨_, d₁, hMade, hWritten⟩ := run_bind_eq_ok hRun
  obtain ⟨l, hLocate, -, rfl⟩ := write_eq_ok hWritten
  have hGrows := ensureDirectories_grows d (destination.below names).parent fun _ _ => False
  rw [hMade] at hGrows
  have hPlace : l = d.place destination ++ names := by
    rw [Disk.locate_eq_place hLocate, hGrows.place, Disk.place_join, Location.follow_eq_append hUp]
  have hBelow : l ≠ [] := by simp [hPlace, hNames]
  rw [← hPlace]
  exact d₁.find?_put_self hBelow _

/-- A file stays as it is if none is unpacked at its place. -/
theorem unpackMember_keeps {d d' : Disk} {m : Member} {c : Content}
    (hNone : m.fileAt? wrapper names = none)
    (hFile : d.tree.find? (d.place destination ++ names) = some (.file c))
    (hRun : (unpackMember destination wrapper m).run d = (.ok (), d')) :
    d'.tree.find? (d.place destination ++ names) = some (.file c) := by
  have hWrites := unpackMember_writes d destination wrapper m
  rw [hRun] at hWrites
  rcases hWrites.find (d.place destination ++ names) with hSame | ⟨-, hEmpty, -⟩ | ⟨c', hc', -, -⟩
  · rw [hSame, hFile]
  · rw [hFile] at hEmpty
    cases hEmpty
  · obtain ⟨names', octets, hTarget, hKind, hPlace, -⟩ := hc'
    rw [List.append_cancel_left_eq] at hPlace
    rw [Member.fileAt?_eq_some.mpr ⟨hPlace ▸ hTarget, hKind⟩] at hNone
    cases hNone

/-- Where files have been unpacked, the last of them stands; where none has, a file is as before. -/
theorem unpackAll_last {d d' : Disk} {ms : List Member} (names : List String)
    (before : Option Content)
    (hBefore : ∀ c ∈ before, d.tree.find? (d.place destination ++ names) = some (.file c))
    (hRun : (unpackAll destination wrapper ms).run d = (.ok (), d')) :
    ∀ c ∈ ((ms.filterMap (Member.fileAt? wrapper names)).getLast?.map Content.octets).or before,
      d'.tree.find? (d.place destination ++ names) = some (.file c) := by
  induction ms generalizing d before with
  | nil =>
    cases hRun
    simpa using hBefore
  | cons m r ih =>
    obtain ⟨_, d₁, hOne, hRest⟩ := run_bind_eq_ok hRun
    have hWrites := unpackMember_writes d destination wrapper m
    rw [hOne] at hWrites
    -- what the first member leaves is what the others find
    cases hFile : m.fileAt? wrapper names with
    | none =>
      rw [List.filterMap_cons_none hFile, ← hWrites.place]
      refine ih before (fun c hc => ?_) hRest
      rw [hWrites.place]
      exact unpackMember_keeps hFile (hBefore c hc) hOne
    | some octets =>
      obtain ⟨hTarget, hKind⟩ := Member.fileAt?_eq_some.mp hFile
      have hFound := unpackMember_file hTarget hKind hOne
      rw [← hWrites.place] at hFound ⊢
      have hAll := ih (some (.octets octets)) (by simpa using hFound) hRest
      rw [List.filterMap_cons_some hFile, List.getLast?_cons]
      cases hLast : (r.filterMap (Member.fileAt? wrapper names)).getLast? with
      | none => simpa [hLast] using hAll
      | some last => simpa [hLast] using hAll

/-! ## Files at the top -/

theorem Member.topFile?_eq_some {m : Member} {octets : List UInt8} :
    m.topFile? name = some octets ↔ m.parts = [name] ∧ m.kind = .file octets := by
  rw [Member.topFile?, ← Member.octets?_eq_some]
  split <;> simp_all

/-- A name whose first part is no root has none. -/
theorem Member.not_startsWith {m : Member} (hParts : m.parts.head? = some name)
    (hSlash : '/' ∉ name.toList) : m.name.startsWith "/" = false := by
  rw [String.startsWith_string_eq_false_iff]
  rintro ⟨r, hr⟩
  have hSome (r : List Char) : Path.rootOf ('/' :: r) ≠ .relative := by
    unfold Path.rootOf
    split <;> simp_all
  have hRoot : Path.rootOf m.name.toList ≠ .relative := hr ▸ hSome r
  simp only [Member.parts, Path.parts, Path.ofString] at hParts
  cases hIs : Path.rootOf m.name.toList with
  | relative => exact hRoot hIs
  | slash =>
    rw [hIs] at hParts
    cases hParts
    exact hSlash (by decide)
  | doubleSlash =>
    rw [hIs] at hParts
    cases hParts
    exact hSlash (by decide)

/-- A file at the top is unpacked under its name, if no directory is around all members. -/
theorem Member.fileAt?_none (m : Member) (hUp : name ≠ "..") (hSlash : '/' ∉ name.toList) :
    m.fileAt? none [name] = m.topFile? name := by
  have hTarget : m.target? none = some [name] ↔ m.parts = [name] := by
    constructor
    · intro h
      simp only [Member.target?] at h
      split at h
      · cases h
      · exact Option.some.inj h
    · intro h
      have hRelative := Member.not_startsWith (m := m) (by rw [h]; rfl) hSlash
      simp [Member.target?, h, hRelative, Ne.symm hUp]
  simp only [Member.fileAt?, Member.topFile?, hTarget]

/-- A file at the top is passed over if its name is taken for the directory around all members. -/
theorem Member.target?_of_parts {m : Member} (hParts : m.parts = [name]) :
    m.target? (some name) = none := by
  simp [Member.target?, hParts]

/-- The name of a file at the top is taken for the directory around all members unless they show that it
is that of a file; and no other name is taken for it. -/
theorem wrapper?_of_top {ms : List Member} (hTop : ∃ m ∈ ms, m.parts = [name]) :
    (ShowsFile name ms → wrapper? ms = none) ∧ (¬ ShowsFile name ms → wrapper? ms = some name) := by
  obtain ⟨m, hm, hParts⟩ := hTop
  have hHead : m.parts.head? = some name := by rw [hParts]; rfl
  constructor
  · intro hShows
    cases hIs : wrapper? ms with
    | none => rfl
    | some top =>
      obtain ⟨-, hFirst, x, hx, hMore⟩ := wrapper?_eq_some_iff.mp hIs
      obtain rfl : name = top := hFirst m hm name hHead
      rcases hShows with ⟨y, hy, first, hIn, hOther⟩ | hSame
      · exact absurd (hFirst y hy first hIn) hOther
      · exact absurd (hSame x hx) hMore
  · intro hNot
    rw [ShowsFile] at hNot
    push Not at hNot
    exact wrapper?_eq_some_iff.mpr ⟨⟨m, hm, hHead⟩, hNot.1, hNot.2⟩

/-! ## Archives -/

/--
**What becomes of a file at the top.** In an archive that has been unpacked let there be a file of some
name with no directory around it. If the members show that this is the name of a file, it stands in the
destination with the octets of the last such file. Else the name is taken for a directory around all
members, and what is left is as if no member had just this name.
-/
theorem unpack_topFile {archive destination : Path} {w w' : World}
    (hRun : (unpack archive destination).run w = (.ok (), w')) :
    ∃ d ms, (ensureDirectories destination).run w.disk = (.ok (), d) ∧ load d archive = .ok ms ∧
      ∀ name octets, name ≠ ".." → '/' ∉ name.toList →
        (ms.filterMap (Member.topFile? name)).getLast? = some octets →
        (ShowsFile name ms → w'.disk.tree.find? (w.disk.place destination ++ [name]) =
          some (.file (.octets octets))) ∧
        (¬ ShowsFile name ms →
          (unpackAll destination (some name) (ms.filter (·.parts != [name]))).run d =
            (.ok (), w'.disk)) := by
  obtain ⟨d, ms, hMade, hLoad, hAll⟩ : ∃ d ms,
      (ensureDirectories destination).run w.disk = (.ok (), d) ∧ load d archive = .ok ms ∧
      (unpackAll destination (wrapper? ms) ms).run d = (.ok (), w'.disk) := by
    cases unpack_run_iff.mp hRun with
    | all hMade hLoad hAll => exact ⟨_, _, hMade, hLoad, hAll⟩
  refine ⟨d, ms, hMade, hLoad, fun name octets hUp hSlash hLast => ?_⟩
  obtain ⟨m, hm, hTop⟩ := List.mem_filterMap.mp (List.mem_of_getLast? hLast)
  obtain ⟨hKept, hTaken⟩ := wrapper?_of_top ⟨m, hm, (Member.topFile?_eq_some.mp hTop).1⟩
  constructor
  · intro hShows
    have hFiles : ms.filterMap (Member.fileAt? none [name]) = ms.filterMap (Member.topFile? name) :=
      List.filterMap_congr fun m _ => m.fileAt?_none hUp hSlash
    have hGrows := ensureDirectories_grows w.disk destination fun _ _ => False
    rw [hMade] at hGrows
    rw [hKept hShows] at hAll
    have hStands := unpackAll_last [name] none (by simp) hAll
    rw [hFiles, hLast, hGrows.place] at hStands
    exact hStands _ rfl
  · intro hNot
    rw [hTaken hNot] at hAll
    rw [← hAll, ← unpackAll_filter fun x _ hx => ?_]
    exact unpackMember_of_target? (Member.target?_of_parts (by simpa using hx))

/-- An archive that is alone on a disk is unpacked into a new directory. -/
theorem unpack_holding (ms : List Member) :
    (unpack ⟨.relative, ["a.tar.gz"]⟩ ⟨.relative, ["out"]⟩).run (holding ms) =
      match (unpackAll ⟨.relative, ["out"]⟩ (wrapper? ms) ms).run
          ((holding ms).disk.put ["out"] .directory) with
      | (.error e, d) => (.error (unpackFailure "a.tar.gz" e), ⟨d, []⟩)
      | (.ok _, d) => (.ok ⟨⟩, ⟨d, [.unpacked ⟨.relative, ["out"]⟩]⟩) := by
  have hMade : (ensureDirectories ⟨.relative, ["out"]⟩).run (holding ms).disk =
      (.ok (), (holding ms).disk.put ["out"] .directory) := by cbv
  have hGrows := ensureDirectories_grows (holding ms).disk ⟨.relative, ["out"]⟩ fun _ _ => False
  rw [hMade] at hGrows
  rw [unpack_run, hMade]
  dsimp only
  rw [load_of_grows hGrows (load_holding ms)]
  rfl

/-- A name that is written in two ways is one name, and the file that comes last stands there. -/
theorem last_file_stands :
    let ms := [⟨"a", .file [1]⟩, ⟨"./a", .file [2]⟩, ⟨"b/c", .file [3]⟩]
    ∃ w', (unpack ⟨.relative, ["a.tar.gz"]⟩ ⟨.relative, ["out"]⟩).run (holding ms) = (.ok (), w') ∧
      w'.disk.tree.find? ["out", "a"] = some (.file (.octets [2])) := by
  intro ms
  have hOk : ((unpack ⟨.relative, ["a.tar.gz"]⟩ ⟨.relative, ["out"]⟩).run (holding ms)).1 = .ok () := by
    have hTop : wrapper? ms = none := by decide
    have hTarget (m : Member) (hSlash : m.name.startsWith "/" = false) (hNonempty : m.parts ≠ [])
        (hUp : ".." ∉ m.parts) : m.target? none = some m.parts := by
      simp [Member.target?, hSlash, hNonempty, hUp]
    rw [unpack_holding, hTop]
    simp only [ms, unpackAll, unpackMember]
    rw [hTarget ⟨"a", _⟩ (by simp) (by decide) (by decide),
      hTarget ⟨"./a", _⟩ (by simp) (by decide) (by decide),
      hTarget ⟨"b/c", _⟩ (by simp) (by decide) (by decide)]
    cbv
  obtain ⟨d, ms', hMade, hLoad, hFiles⟩ := unpack_topFile (Prod.ext hOk rfl)
  have hGrows := ensureDirectories_grows (holding ms).disk ⟨.relative, ["out"]⟩ fun _ _ => False
  rw [hMade] at hGrows
  obtain rfl : ms = ms' := Except.ok.inj ((load_of_grows hGrows (load_holding ms)).symm.trans hLoad)
  have hStands := (hFiles "a" [2] (by decide) (by decide) (by decide)).1
  exact ⟨_, Prod.ext hOk rfl, hStands (.inl (by decide))⟩

/-- A file that an archive has beside the directory it is in, as archives of a directory often do, is
taken for a directory, and nothing is unpacked. -/
theorem lone_file_taken_for_wrapper :
    let ms := [⟨".", .directory⟩, ⟨"course.xml", .file []⟩]
    ∃ w', (unpack ⟨.relative, ["a.tar.gz"]⟩ ⟨.relative, ["out"]⟩).run (holding ms) = (.ok (), w') ∧
      load (holding ms).disk ⟨.relative, ["a.tar.gz"]⟩ = .ok ms ∧
      (ms.filterMap (Member.topFile? "course.xml")).getLast? = some [] ∧
      w'.disk.tree.find? ["out", "course.xml"] = none := by
  intro ms
  have hTop : wrapper? ms = some "course.xml" := by decide
  have hAll : unpackAll ⟨.relative, ["out"]⟩ (some "course.xml") ms = pure () := by
    have hHere : Member.target? (some "course.xml") ⟨".", .directory⟩ = none := by
      have hParts : Member.parts ⟨".", .directory⟩ = [] := by decide
      simp [Member.target?, hParts]
    have hFile : Member.target? (some "course.xml") ⟨"course.xml", .file []⟩ = none :=
      Member.target?_of_parts (by decide)
    rw [unpackAll, unpackMember_of_target? hHere, unpackAll, unpackMember_of_target? hFile]
    rfl
  have hRun := unpack_holding ms
  rw [hTop, hAll, run_pure] at hRun
  exact ⟨_, hRun, load_holding ms, by decide, by cbv⟩

end Coursebook.Archive
