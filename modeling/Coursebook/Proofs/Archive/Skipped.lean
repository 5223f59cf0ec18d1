import Mathlib
import Coursebook.Proofs.Archive.Packing

/-!
# Coursebook — members that are passed over

Links, special files, members with an absolute name and members whose name goes back are passed over
one by one: nothing is made of them, and what is made of the others does not depend on them. They do
have a part in the directory around all members, which is looked for among the names of all. So an
archive is unpacked as it would be without them, if that directory is the same with and without them.

* `unpackAll_eq_safe` — with that directory given, the members that are passed over make no
  difference.
* `wrapper?_safe` — a condition under which that directory is the same without them.
* `unpack_without_skipped` — an archive with them and one without them.
* `skipped_link_counts` — a link beside all other members, and what that changes.
-/

namespace Coursebook.Archive

open Coursebook.Files

variable {destination : Path} {ms : List Member} {top : String}

/-- Whether a member is a file or a directory whose name is not absolute and does not go back. -/
def Member.isSafe (m : Member) : Bool :=
  m.kind != .other && !m.name.startsWith "/" && !m.parts.contains ".."

/-- The members without those that are passed over. -/
def safe (ms : List Member) : List Member := ms.filter Member.isSafe

/-! ## Member by member -/

/-- A name that goes back does so behind the directory around all members, unless that is what the
names of all members begin with. -/
theorem up_mem_drop {m : Member} (hTop : wrapper? ms = some top) (hUp : top ≠ "..") (hm : m ∈ ms)
    (hMem : ".." ∈ m.parts) : ".." ∈ m.parts.drop 1 := by
  obtain ⟨-, hFirst, -⟩ := wrapper?_eq_some_iff.mp hTop
  have hFirst := hFirst m hm
  rcases hParts : m.parts with _ | ⟨first, r⟩
  · rw [hParts] at hMem
    cases hMem
  · rw [hParts] at hMem hFirst
    obtain rfl : first = top := hFirst first rfl
    exact (List.mem_cons.mp hMem).resolve_left (Ne.symm hUp)

theorem unpackMember_of_not_isSafe (destination : Path) {m : Member} (hUp : wrapper? ms ≠ some "..")
    (hm : m ∈ ms) (h : m.isSafe = false) :
    unpackMember destination (wrapper? ms) m = pure () := by
  rw [Member.isSafe, Bool.and_eq_false_iff, Bool.and_eq_false_iff, bne_eq_false_iff_eq,
    Bool.not_eq_false', Bool.not_eq_false', List.contains_iff_mem] at h
  obtain (hKind | hAbsolute) | hBack := h
  · exact unpackMember_of_other destination _ hKind
  · exact unpackMember_of_target? (if_pos (.inr (.inl hAbsolute)))
  · -- the name still goes back when the directory around all members has been taken off
    refine unpackMember_of_target? (if_pos (.inr (.inr ?_)))
    cases hTop : wrapper? ms with
    | none => exact hBack
    | some top => exact up_mem_drop hTop (fun hIs => hUp (hIs ▸ hTop)) hm hBack

theorem unpackAll_eq_safe (destination : Path) (hUp : wrapper? ms ≠ some "..") :
    unpackAll destination (wrapper? ms) ms = unpackAll destination (wrapper? ms) (safe ms) :=
  unpackAll_filter fun _ hm h => unpackMember_of_not_isSafe destination hUp hm h

/-! ## The directory around all members -/

theorem mem_safe {m : Member} : m ∈ safe ms ↔ m ∈ ms ∧ m.isSafe = true := List.mem_filter

/-- If the members that are passed over are in the directory around the others, it is around all of
them. -/
theorem wrapper?_safe (hTop : wrapper? (safe ms) = some top)
    (hInside : ∀ m ∈ ms, m.isSafe = false → ∀ first ∈ m.parts.head?, first = top) :
    wrapper? (safe ms) = wrapper? ms := by
  obtain ⟨⟨m, hm, hFirst⟩, hAll, m', hm', hMore⟩ := wrapper?_eq_some_iff.mp hTop
  rw [hTop, eq_comm]
  refine wrapper?_eq_some_iff.mpr
    ⟨⟨m, (mem_safe.mp hm).1, hFirst⟩, fun x hx => ?_, m', (mem_safe.mp hm').1, hMore⟩
  cases hSafe : x.isSafe with
  | true => exact hAll x (mem_safe.mpr ⟨hx, hSafe⟩)
  | false => exact hInside x hx hSafe

/-! ## Archives -/

/-- What unpacking does once the destination is there and the members are known. -/
theorem unpack_congr {archive archive' : Path} {w : World} {ms' : List Member}
    (hLoad : load w.disk archive = .ok ms) (hLoad' : load w.disk archive' = .ok ms')
    (hSame : unpackAll destination (wrapper? ms') ms' = unpackAll destination (wrapper? ms) ms) :
    ((unpack archive' destination).run w).2 = ((unpack archive destination).run w).2 ∧
      (archive'.name = archive.name →
        (unpack archive' destination).run w = (unpack archive destination).run w) := by
  have hMade := ensureDirectories_grows w.disk destination fun _ _ => False
  rw [unpack_run, unpack_run]
  generalize (ensureDirectories destination).run w.disk = run at hMade ⊢
  obtain ⟨made, d⟩ := run
  cases made with
  | error e => exact ⟨rfl, fun _ => rfl⟩
  | ok _ =>
    dsimp only at hMade ⊢
    rw [load_of_grows hMade hLoad, load_of_grows hMade hLoad']
    dsimp only
    rw [hSame]
    obtain ⟨outcome, d'⟩ := (unpackAll destination (wrapper? ms) ms).run d
    cases outcome with
    | ok _ => exact ⟨rfl, fun _ => rfl⟩
    | error e => exact ⟨rfl, fun hName => by rw [hName]⟩

/--
**Members that are passed over make no difference.** Take the links, the special files, the members
with an absolute name and those whose name goes back out of an archive. If the directory around all
members is the same with and without them, or if no member is left, and if it is not `..`, an archive of
the others is unpacked just as the whole one is: the same is left, and with archives of one name the
outcome is the same too.
-/
theorem unpack_without_skipped {archive archive' : Path} {w : World}
    (hUp : wrapper? ms ≠ some "..") (hSame : safe ms ≠ [] → wrapper? (safe ms) = wrapper? ms)
    (hLoad : load w.disk archive = .ok ms) (hLoad' : load w.disk archive' = .ok (safe ms)) :
    ((unpack archive' destination).run w).2 = ((unpack archive destination).run w).2 ∧
      (archive'.name = archive.name →
        (unpack archive' destination).run w = (unpack archive destination).run w) := by
  refine unpack_congr hLoad hLoad' ?_
  rw [unpackAll_eq_safe destination hUp]
  by_cases hNil : safe ms = []
  · rw [hNil]
    rfl
  · rw [hSame hNil]

/-! ## Two archives -/

/-- A disk with two archives of one name, in different directories. -/
def holdingBoth (ms ms' : List Member) : World where
  disk :=
    { tree := ⟨[(["a"], .directory), (["a", "x.tar.gz"], .file (.archive ms)), (["b"], .directory),
        (["b", "x.tar.gz"], .file (.archive ms'))]⟩ }

theorem load_holdingBoth (ms ms' : List Member) :
    load (holdingBoth ms ms').disk ⟨.relative, ["a", "x.tar.gz"]⟩ = .ok ms ∧
      load (holdingBoth ms ms').disk ⟨.relative, ["b", "x.tar.gz"]⟩ = .ok ms' := by
  have hEntry : (holdingBoth ms ms').disk.entry ⟨.relative, ["a", "x.tar.gz"]⟩ =
      .ok (.file (.archive ms)) := by cbv
  have hEntry' : (holdingBoth ms ms').disk.entry ⟨.relative, ["b", "x.tar.gz"]⟩ =
      .ok (.file (.archive ms')) := by cbv
  constructor
  · rw [load, Disk.read_of_entry hEntry]
    rfl
  · rw [load, Disk.read_of_entry hEntry']
    rfl

/-- The file that makes a course, in a directory. -/
def courseFile : Member := ⟨"course/course.xml", .file []⟩

theorem courseFile_parts : courseFile.parts = ["course", "course.xml"] := by decide

theorem courseFile_relative : courseFile.name.startsWith "/" = false := by simp [courseFile]

theorem courseFile_isSafe : courseFile.isSafe = true := by
  rw [Member.isSafe, courseFile_parts, courseFile_relative]
  rfl

/-- A file that would leave the directory, and a link in it, are as good as not there. -/
theorem unpack_without_escapes :
    let ms := [courseFile, ⟨"course/../../evil.txt", .file [1]⟩, ⟨"course/link", .other⟩]
    let w := holdingBoth ms [courseFile]
    safe ms = [courseFile] ∧ wrapper? (safe ms) = wrapper? ms ∧ wrapper? ms ≠ some ".." ∧
      (unpack ⟨.relative, ["b", "x.tar.gz"]⟩ ⟨.relative, ["out"]⟩).run w =
        (unpack ⟨.relative, ["a", "x.tar.gz"]⟩ ⟨.relative, ["out"]⟩).run w := by
  intro ms w
  have hUnsafe : Member.isSafe ⟨"course/../../evil.txt", .file [1]⟩ = false := by
    rw [Member.isSafe, Bool.and_eq_false_iff]
    exact .inr (by decide)
  have hSafe : safe ms = [courseFile] := by
    show [_, _, _].filter Member.isSafe = _
    rw [List.filter_cons_of_pos courseFile_isSafe, List.filter_cons_of_neg (by simp [hUnsafe])]
    rfl
  have hTop : wrapper? (safe ms) = some "course" := by
    rw [hSafe]
    decide
  have hInside : ∀ m ∈ ms, ∀ first ∈ m.parts.head?, first = "course" := by decide
  have hSame : wrapper? (safe ms) = wrapper? ms := wrapper?_safe hTop fun m hm _ => hInside m hm
  have hUp : wrapper? ms ≠ some ".." := by
    rw [← hSame, hTop]
    decide
  obtain ⟨hLoad, hOthers⟩ := load_holdingBoth ms [courseFile]
  have hLoad' : load w.disk ⟨.relative, ["b", "x.tar.gz"]⟩ = .ok (safe ms) := hSafe ▸ hOthers
  exact ⟨hSafe, hSame, hUp, (unpack_without_skipped hUp (fun _ => hSame) hLoad hLoad').2 rfl⟩

/-- A link beside the directory that all other members are in is passed over, and still the directory
is kept on account of it. -/
theorem skipped_link_counts :
    let ms := [courseFile, ⟨"link", .other⟩]
    let w := holdingBoth ms [courseFile]
    let after (archive : Path) := ((unpack archive ⟨.relative, ["out"]⟩).run w).2.disk.tree
    safe ms = [courseFile] ∧
      load w.disk ⟨.relative, ["a", "x.tar.gz"]⟩ = .ok ms ∧
      load w.disk ⟨.relative, ["b", "x.tar.gz"]⟩ = .ok [courseFile] ∧
      (after ⟨.relative, ["a", "x.tar.gz"]⟩).find? ["out", "course", "course.xml"] =
        some (.file (.octets [])) ∧
      (after ⟨.relative, ["b", "x.tar.gz"]⟩).find? ["out", "course", "course.xml"] = none := by
  intro ms w after
  have hSafe : safe ms = [courseFile] := by
    rw [safe, List.filter_cons_of_pos courseFile_isSafe]
    rfl
  obtain ⟨hLoad, hLoad'⟩ := load_holdingBoth ms [courseFile]
  have hMade : (ensureDirectories ⟨.relative, ["out"]⟩).run w.disk =
      (.ok (), w.disk.put ["out"] .directory) := by cbv
  have hGrows := ensureDirectories_grows w.disk ⟨.relative, ["out"]⟩ fun _ _ => False
  rw [hMade] at hGrows
  -- the link has kept the directory around the file from being taken off
  have hTop : wrapper? ms = none := by decide
  have hTop' : wrapper? [courseFile] = some "course" := by decide
  have hTarget : courseFile.target? none = some ["course", "course.xml"] := by
    simp [Member.target?, courseFile_parts, courseFile_relative]
  have hTarget' : courseFile.target? (some "course") = some ["course.xml"] := by
    simp [Member.target?, courseFile_parts, courseFile_relative]
  have hLink : unpackAll ⟨.relative, ["out"]⟩ none ms =
      unpackAll ⟨.relative, ["out"]⟩ none [courseFile] := unpackAll_without_links _ _ _
  refine ⟨hSafe, hLoad, hLoad', ?_, ?_⟩
  · simp only [after, unpack_run, hMade, load_of_grows hGrows hLoad, hTop, hLink, unpackAll,
      unpackMember, hTarget]
    cbv
  · simp only [after, unpack_run, hMade, load_of_grows hGrows hLoad', hTop', unpackAll,
      unpackMember, hTarget']
    cbv

end Coursebook.Archive
