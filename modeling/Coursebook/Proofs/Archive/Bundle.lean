import Mathlib.Data.List.Nodup
import Coursebook.Archive.Unpack
import Coursebook.Proofs.Files.Name

/-!
# Coursebook — trees packed into an archive

A bundle is a finite tree of directories and files; packed, every path in it is a member of an
archive, under the name of a directory around them all. The members may come in any order, a file
before the directory that it is in as well as after it.

* `wrapper?_eq_some_iff` — the directory around all members, in terms of their names.
* `wrapper?_of_listing` — whatever the order, the directory around them all is found.
* `target?_member` — a member is unpacked under the path that it was packed from.
-/

namespace Coursebook.Archive

open Coursebook.Files

/-- What a tree has under a path. -/
inductive Node where
  | directory
  | file (octets : List UInt8)
  deriving DecidableEq, Repr

/-- The kind of member that something is packed as. -/
def Node.kind : Node → MemberKind
  | .directory => .directory
  | .file octets => .file octets

/-- What something is on a disk. -/
def Node.entry : Node → Entry
  | .directory => .directory
  | .file octets => .file (.octets octets)

/-- A finite tree of directories and files, as what it has under each path. -/
structure Bundle where
  nodes : List (List String × Node)
  nonempty : nodes ≠ []
  path : ∀ x ∈ nodes, x.1 ≠ [] ∧ ∀ n ∈ x.1, IsName n
  unique : (nodes.map Prod.fst).Nodup
  parent : ∀ x ∈ nodes, x.1.dropLast ≠ [] → (x.1.dropLast, Node.directory) ∈ nodes

/-- All that a list has is one thing. -/
theorem eraseDups_eq_singleton_iff {l : List String} {a : String} :
    l.eraseDups = [a] ↔ a ∈ l ∧ ∀ b ∈ l, b = a := by
  constructor
  · intro h
    have hMem (b : String) : b ∈ l ↔ b = a := by
      rw [← List.mem_eraseDups, h, List.mem_singleton]
    exact ⟨(hMem a).mpr rfl, fun b hb => (hMem b).mp hb⟩
  · rintro ⟨hMem, hAll⟩
    cases l with
    | nil => cases hMem
    | cons b r =>
      obtain rfl : b = a := hAll b List.mem_cons_self
      have hRest : r.filter (fun c => !c == b) = [] := List.filter_eq_nil_iff.mpr fun c hc => by
        simp [hAll c (List.mem_cons_of_mem _ hc)]
      rw [List.eraseDups_cons, hRest]
      rfl

/-- The directory around all members is what their names begin with, unless they consist of it. -/
theorem wrapper?_eq_some_iff {ms : List Member} {top : String} :
    wrapper? ms = some top ↔
      (∃ m ∈ ms, m.parts.head? = some top) ∧
      (∀ m ∈ ms, ∀ first ∈ m.parts.head?, first = top) ∧ ∃ m ∈ ms, m.parts ≠ [top] := by
  have hFirst (first : String) : first ∈ (ms.map Member.parts).filterMap List.head? ↔
      ∃ m ∈ ms, m.parts.head? = some first := by
    simp only [List.filterMap_map, List.mem_filterMap, Function.comp_apply]
  have hOne : ((ms.map Member.parts).filterMap List.head?).eraseDups = [top] ↔
      (∃ m ∈ ms, m.parts.head? = some top) ∧
        ∀ m ∈ ms, ∀ first ∈ m.parts.head?, first = top := by
    rw [eraseDups_eq_singleton_iff, hFirst]
    refine and_congr_right fun _ => ⟨fun h m hm first hIs => ?_, fun h first hIs => ?_⟩
    · exact h first ((hFirst first).mpr ⟨m, hm, hIs⟩)
    · obtain ⟨m, hm, hIs⟩ := (hFirst first).mp hIs
      exact h m hm first hIs
  have hMore : ((ms.map Member.parts).all (· == [top])) = false ↔ ∃ m ∈ ms, m.parts ≠ [top] := by
    simp [List.all_eq_false]
  rw [← and_assoc, ← hOne, ← hMore]
  unfold wrapper?
  extract_lets parts
  constructor
  · intro h
    split at h
    · rename_i first hIs
      split at h
      · cases h
      · rename_i hNotAll
        obtain rfl : first = top := Option.some.inj h
        exact ⟨hIs, Bool.eq_false_iff.mpr hNotAll⟩
    · cases h
  · rintro ⟨hIs, hNotAll⟩
    rw [hIs]
    dsimp only
    rw [hNotAll, if_neg Bool.false_ne_true]

namespace Bundle

theorem eq_of_mem {b : Bundle} {names : List String} {x y : Node} (hx : (names, x) ∈ b.nodes)
    (hy : (names, y) ∈ b.nodes) : x = y := by
  have hPair := List.inj_on_of_nodup_map b.unique hx hy rfl
  exact (Prod.mk.inj hPair).2

/-- Everything on the way to something in a bundle is a directory in it. -/
theorem take_mem {b : Bundle} {names : List String} {x : Node} (h : (names, x) ∈ b.nodes) {n : Nat}
    (hPos : n ≠ 0) (hn : n < names.length) : (names.take n, Node.directory) ∈ b.nodes := by
  induction hLength : names.length - n generalizing names x with
  | zero => omega
  | succ k ih =>
    have hDropLast : names.dropLast.length = names.length - 1 := List.length_dropLast
    have hNonempty : names.dropLast ≠ [] := by
      intro hNil
      rw [hNil, List.length_nil] at hDropLast
      omega
    have hParent : (names.dropLast, Node.directory) ∈ b.nodes := b.parent _ h hNonempty
    by_cases hLast : n = names.length - 1
    · rw [hLast, ← List.dropLast_eq_take]
      exact hParent
    · have hTake := ih hParent (by omega) (by omega)
      rwa [List.dropLast_eq_take, List.take_take, Nat.min_eq_left (by omega)] at hTake

/-- The member that something is packed as, in a directory around all members. -/
def member (top : String) (x : List String × Node) : Member :=
  ⟨"/".intercalate (top :: x.1), x.2.kind⟩

/-- The members of the packed bundle. -/
def members (b : Bundle) (top : String) : List Member := b.nodes.map (member top)

/-- The members of the packed bundle in any order, with or without one for the directory around
them. -/
def IsListing (b : Bundle) (top : String) (ms : List Member) : Prop :=
  ms.Perm (b.members top) ∨ ms.Perm (⟨top, .directory⟩ :: b.members top)

variable {b : Bundle} {top : String} {ms : List Member}

/-- Of the order of the members nothing matters but that none is missing and none is added. -/
theorem IsListing.mem_iff (h : b.IsListing top ms) {m : Member} (hm : m ≠ ⟨top, .directory⟩) :
    m ∈ ms ↔ ∃ x ∈ b.nodes, m = member top x := by
  have hMembers : m ∈ b.members top ↔ ∃ x ∈ b.nodes, m = member top x := by
    simp only [members, List.mem_map, eq_comm]
  rcases h with h | h
  · rw [h.mem_iff, hMembers]
  · rw [h.mem_iff, List.mem_cons, or_iff_right hm, hMembers]

/-! ## Names of members -/

/-- The parts of a member's name are the names it was written with. -/
theorem parts_member (hTop : IsName top) {names : List String} (hNames : ∀ n ∈ names, IsName n)
    (kind : MemberKind) : Member.parts ⟨"/".intercalate (top :: names), kind⟩ = top :: names := by
  have hWritten : "/".intercalate (top :: names) = toString (⟨.relative, top :: names⟩ : Path) := by
    rw [Path.toString_eq (List.cons_ne_nil top names), Path.rootText, String.empty_append]
  have hAll : ∀ n ∈ top :: names, IsName n := by
    intro n hn
    rcases List.mem_cons.mp hn with rfl | hn
    · exact hTop
    · exact hNames n hn
  show (Path.ofString _).parts = _
  rw [hWritten, Path.ofString_toString hAll]
  rfl

theorem parts_top (hTop : IsName top) (kind : MemberKind) :
    Member.parts ⟨top, kind⟩ = [top] := by
  have hParts := parts_member hTop (fun n hn => absurd hn List.not_mem_nil) kind
  rwa [String.intercalate_singleton] at hParts

theorem name_not_startsWith (hTop : IsName top) {names : List String}
    (hNames : ∀ n ∈ names, IsName n) : ("/".intercalate (top :: names)).startsWith "/" = false := by
  rw [String.startsWith_string_eq_false_iff]
  rintro ⟨r, hr⟩
  have hHead : ("/".intercalate (top :: names)).toList.head? ≠ some '/' := by
    refine Path.head?_intercalate fun n hn => ?_
    rcases List.mem_cons.mp hn with rfl | hn
    · exact hTop
    · exact hNames n hn
  rw [← hr] at hHead
  exact hHead rfl

/-- A member is unpacked under the path that it was packed from. -/
theorem target?_member (hTop : IsName top) {x : List String × Node} (hx : x ∈ b.nodes) :
    (member top x).target? (some top) = some x.1 := by
  obtain ⟨hNonempty, hNames⟩ := b.path x hx
  have hUp : ".." ∉ x.1 := fun h => (hNames _ h).ne_up rfl
  have hDrop : (member top x).parts.drop 1 = x.1 := by
    rw [member, parts_member hTop hNames]
    rfl
  have hSlash : (member top x).name.startsWith "/" = false := name_not_startsWith hTop hNames
  simp only [Member.target?, hDrop, hSlash]
  rw [if_neg (by simp [hNonempty, hUp])]

/-- The directory around all members is not unpacked. -/
theorem target?_top (hTop : IsName top) (kind : MemberKind) :
    Member.target? (some top) ⟨top, kind⟩ = none := by
  simp [Member.target?, parts_top hTop]

/-! ## The directory around all members -/

theorem parts_of_listing (hTop : IsName top) (h : b.IsListing top ms) {m : Member} (hm : m ∈ ms) :
    m.parts.head? = some top := by
  by_cases hAround : m = ⟨top, .directory⟩
  · rw [hAround, parts_top hTop]
    rfl
  · obtain ⟨x, hx, rfl⟩ := (h.mem_iff hAround).mp hm
    rw [member, parts_member hTop (b.path x hx).2]
    rfl

/-- A member that stands for something in the bundle is not the directory around all members. -/
theorem member_ne_top (hTop : IsName top) {x : List String × Node} (hx : x ∈ b.nodes) :
    member top x ≠ ⟨top, .directory⟩ := by
  obtain ⟨hNonempty, hNames⟩ := b.path x hx
  intro hEq
  have hParts := congrArg Member.parts hEq
  rw [member, parts_member hTop hNames, parts_top hTop] at hParts
  exact hNonempty (List.cons.inj hParts).2

theorem member_mem (hTop : IsName top) (h : b.IsListing top ms) {x : List String × Node}
    (hx : x ∈ b.nodes) : member top x ∈ ms :=
  (h.mem_iff (member_ne_top hTop hx)).mpr ⟨x, hx, rfl⟩

/-- Whatever the order of the members, the directory around them all is found, also if the bundle
has something of its name in it, or but one directory. -/
theorem wrapper?_of_listing (hTop : IsName top) (h : b.IsListing top ms) :
    wrapper? ms = some top := by
  obtain ⟨x, hx⟩ := List.exists_mem_of_ne_nil b.nodes b.nonempty
  have hMem := member_mem hTop h hx
  have hAll : ∀ m ∈ ms, m.parts.head? = some top := fun m hm => parts_of_listing hTop h hm
  refine wrapper?_eq_some_iff.mpr ⟨⟨_, hMem, hAll _ hMem⟩, fun m hm => ?_, _, hMem, ?_⟩
  · rw [hAll m hm]
    rintro _ ⟨⟩
    rfl
  · -- what the bundle has is in the directory around all members
    rw [member, parts_member hTop (b.path x hx).2]
    simpa using (b.path x hx).1

end Bundle

end Coursebook.Archive
