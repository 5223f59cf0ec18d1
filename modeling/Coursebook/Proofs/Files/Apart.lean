import Mathlib.Data.List.Basic
import Coursebook.Proofs.Files.Below
import Coursebook.Proofs.Files.Edits
import Coursebook.Proofs.Files.Listing
import Coursebook.Proofs.Files.Making

/-!
# Coursebook — disks that differ in some places only

Two disks can be the same but for what is at or below some locations (`Disk.SameOutside`). Whatever
keeps away from those locations sees no difference: a path that avoids them leads to the same on both
disks, and a change by such a path ends on both in the same way, and leaves them the same outside.
A change at or below those locations, on the other hand, is not seen outside.

* `SameOutside.locate`, `SameOutside.entry`, `SameOutside.listAll` — questions.
* `ensureDirectories_alike`, `write_alike`, `copy_alike` — changes on both disks.
* `Edits.sameOutside` — a change of one disk.
-/

namespace Coursebook.Files

/-! ## Locations -/

/-- Whether a location is one of some others or below one of them. -/
def covered (cones : List Location) (l : Location) : Bool := cones.any fun k => k.isPrefixOf l

/-- A location that is not above, below or at any of some others. -/
def Apart (cones : List Location) (l : Location) : Prop := ∀ k ∈ cones, ¬ k <+: l ∧ ¬ l <+: k

instance (cones : List Location) (l : Location) : Decidable (Apart cones l) :=
  inferInstanceAs (Decidable (∀ k ∈ cones, ¬ k <+: l ∧ ¬ l <+: k))

theorem covered_iff {cones : List Location} {l : Location} :
    covered cones l = true ↔ ∃ k ∈ cones, k <+: l := by
  simp [covered]

theorem not_covered_iff {cones : List Location} {l : Location} :
    covered cones l = false ↔ ∀ k ∈ cones, ¬ k <+: l := by
  simp [covered]

theorem covered_append {cones : List Location} {l : Location} (h : covered cones l = true)
    (names : List String) : covered cones (l ++ names) = true := by
  obtain ⟨k, hk, hPrefix⟩ := covered_iff.mp h
  exact covered_iff.mpr ⟨k, hk, hPrefix.trans (List.prefix_append l names)⟩

/-- Nothing at or below a location that is apart is covered. -/
theorem Apart.not_covered {cones : List Location} {l : Location} (h : Apart cones l)
    (names : List String) : covered cones (l ++ names) = false := by
  refine not_covered_iff.mpr fun k hk hPrefix => ?_
  rcases List.prefix_or_prefix_of_prefix hPrefix (List.prefix_append l names) with hAbove | hBelow
  · exact (h k hk).1 hAbove
  · exact (h k hk).2 hBelow

/-- What is below a location that is apart is apart as well. -/
theorem Apart.below {cones : List Location} {l : Location} (h : Apart cones l)
    (names : List String) : Apart cones (l ++ names) := fun k hk =>
  ⟨not_covered_iff.mp (h.not_covered names) k hk, fun hBelow =>
    (h k hk).2 ((List.prefix_append l names).trans hBelow)⟩

/-- Of two locations either is apart from the other. -/
theorem Apart.symm {k l : Location} (h : Apart [k] l) : Apart [l] k := by
  intro m hm
  obtain rfl := List.mem_singleton.mp hm
  exact (h k (List.mem_singleton_self k)).symm

/-! ## Disks -/

/-- What stands on a disk, but for some locations and all below them. -/
def Disk.outside (cones : List Location) (d : Disk) : List (Location × Entry) :=
  d.tree.entries.filter fun x => !covered cones x.1

/-- Two disks with the same working directory and the same outside some locations. -/
structure Disk.SameOutside (here : Location) (cones : List Location) (d d' : Disk) : Prop where
  here_eq : d.here = here
  here_eq' : d'.here = here
  entries : d'.outside cones = d.outside cones

/-- A path that does not come to any of some locations, nor to what is below them. -/
def Path.Avoids (p : Path) (here : Location) (cones : List Location) : Prop :=
  ∀ n, covered cones (Disk.place ⟨{}, here⟩ (p.upTo n)) = false

namespace Disk.SameOutside

variable {here : Location} {cones cones' : List Location} {d d' d₁ : Disk} {p : Path}
  {l : Location}

theorem refl (cones : List Location) (h : d.here = here) : d.SameOutside here cones d := ⟨h, h, rfl⟩

theorem trans (h : d.SameOutside here cones d') (h' : d'.SameOutside here cones d₁) :
    d.SameOutside here cones d₁ :=
  ⟨h.here_eq, h'.here_eq', h'.entries.trans h.entries⟩

theorem mono (h : d.SameOutside here cones d') (hMore : cones ⊆ cones') :
    d.SameOutside here cones' d' := by
  have hSmaller (d : Disk) :
      d.outside cones' = (d.outside cones).filter fun x => !covered cones' x.1 := by
    unfold Disk.outside
    rw [List.filter_filter]
    refine List.filter_congr fun x _ => ?_
    by_cases hCovered : covered cones x.1 = true
    · obtain ⟨k, hk, hPrefix⟩ := covered_iff.mp hCovered
      simp [hCovered, covered_iff.mpr ⟨k, hMore hk, hPrefix⟩]
    · simp [hCovered]
  exact ⟨h.here_eq, h.here_eq', by rw [hSmaller, hSmaller, h.entries]⟩

/-! ### Questions -/

theorem find? (h : d.SameOutside here cones d') (hl : covered cones l = false) :
    d'.tree.find? l = d.tree.find? l := by
  have hLookup (d : Disk) : (d.outside cones).lookup l = d.tree.entries.lookup l :=
    Tree.lookup_filter (fun k => !covered cones k) l (by simp [hl]) d.tree.entries
  unfold Tree.find?
  rw [← hLookup, ← hLookup, h.entries]

/-- An entry elsewhere is one of both disks. -/
theorem mem (h : d.SameOutside here cones d') {x : Location × Entry} (hx : x ∈ d'.tree.entries)
    (hl : covered cones x.1 = false) : x ∈ d.tree.entries := by
  have hOutside : x ∈ d'.outside cones := List.mem_filter.mpr ⟨hx, by simp [hl]⟩
  rw [h.entries] at hOutside
  exact (List.mem_filter.mp hOutside).1

theorem place (h : d.SameOutside here cones d') (p : Path) : d'.place p = d.place p :=
  place_congr (h.here_eq'.trans h.here_eq.symm) p

theorem place_eq (h : d.here = here) (p : Path) : d.place p = Disk.place ⟨{}, here⟩ p :=
  place_congr h p

theorem not_covered (h : d.here = here) (hp : p.Avoids here cones) :
    covered cones (d.place p) = false := by
  have hAll := hp p.names.length
  rwa [p.upTo_length, ← place_eq h] at hAll

theorem walk (h : d.SameOutside here cones d') {names : List String} {l : Location}
    (hNames : ∀ n < names.length, covered cones (l.follow (names.take n)) = false) :
    d'.tree.walk l names = d.tree.walk l names := by
  induction names generalizing l with
  | nil => rfl
  | cons name r ih =>
    have hFirst : covered cones l = false := hNames 0 (Nat.zero_lt_succ _)
    have hRest (n : Nat) (hn : n < r.length) :
        covered cones ((l.enter name).follow (r.take n)) = false :=
      hNames (n + 1) (Nat.succ_lt_succ hn)
    rw [Tree.walk, Tree.walk, h.find? hFirst]
    unfold Location.enter at hRest
    split
    · rfl
    · rfl
    · split
      · rw [if_pos ‹_›] at hRest
        exact ih hRest
      · rw [if_neg ‹_›] at hRest
        split
        · rfl
        · exact ih hRest

/-- A path whose names, all but the last, lead to places that are not covered. -/
theorem locate_of_above (h : d.SameOutside here cones d')
    (hp : ∀ n < p.names.length, covered cones (Disk.place ⟨{}, here⟩ (p.upTo n)) = false) :
    d'.locate p = d.locate p := by
  have hStart : d'.start p = d.start p := by
    unfold Disk.start
    rw [h.here_eq', h.here_eq]
  by_cases hWritable : p.IsWritable
  · rw [d'.locate_eq_walk hWritable, d.locate_eq_walk hWritable, hStart]
    refine h.walk fun n hn => ?_
    have hPlace := hp n hn
    rwa [← place_eq h.here_eq] at hPlace
  · obtain ⟨fault, hFault, hFault'⟩ := Disk.locate_of_not_isWritable hWritable d d'
    rw [hFault, hFault']

theorem locate (h : d.SameOutside here cones d') (hp : p.Avoids here cones) :
    d'.locate p = d.locate p :=
  h.locate_of_above fun n _ => hp n

theorem entry (h : d.SameOutside here cones d') (hp : p.Avoids here cones) :
    d'.entry p = d.entry p := by
  unfold Disk.entry
  rw [h.locate hp]
  cases hLocate : d.locate p with
  | error fault => rfl
  | ok l =>
    rw [bind_ok, bind_ok, Disk.locate_eq_place hLocate, h.find? (not_covered h.here_eq hp)]

theorem ask (h : d.SameOutside here cones d') (hp : p.Avoids here cones)
    (question : Entry → Bool) : d'.ask p question = d.ask p question := by
  unfold Disk.ask
  rw [h.entry hp]

theorem read (h : d.SameOutside here cones d') (hp : p.Avoids here cones) :
    d'.read p = d.read p := by
  unfold Disk.read
  rw [h.entry hp]

theorem same (h : d.SameOutside here cones d') {q : Path} (hp : p.Avoids here cones)
    (hq : q.Avoids here cones) : d'.same p q = d.same p q := by
  unfold Disk.same
  rw [h.locate hp, h.locate hq]
  cases hLocate : d.locate p with
  | error fault => rfl
  | ok l =>
    obtain rfl := Disk.locate_eq_place hLocate
    cases d.locate q with
    | error fault => rfl
    | ok k => simp only [h.find? (not_covered h.here_eq hp)]

theorem below (h : d.SameOutside here cones d') (hl : Apart cones l) :
    d'.tree.below l = d.tree.below l := by
  have hFilter (d : Disk) : d.tree.below l =
      (d.outside cones).filter fun x => l.isPrefixOf x.1 && x.1 != l := by
    unfold Tree.below Disk.outside
    rw [List.filter_filter]
    refine List.filter_congr fun x _ => ?_
    by_cases hPrefix : l <+: x.1
    · obtain ⟨names, hNames⟩ := hPrefix
      simp [← hNames, hl.not_covered names]
    · simp [hPrefix]
  rw [hFilter, hFilter, h.entries]

theorem inDirectory (h : d.SameOutside here cones d') (hl : Apart cones l) :
    d'.tree.inDirectory l = d.tree.inDirectory l := by
  have hFilter (d : Disk) : d.tree.inDirectory l = Tree.inDirectory ⟨d.outside cones⟩ l := by
    unfold Tree.inDirectory Disk.outside
    rw [List.filterMap_filter]
    refine List.filterMap_congr fun x _ => ?_
    obtain ⟨k, e⟩ := x
    cases hLast : k.getLast? with
    | none => simp [hLast]
    | some name =>
      rw [List.getLast?_eq_some_iff] at hLast
      obtain ⟨above, rfl⟩ := hLast
      by_cases hAbove : above = l
      · subst hAbove
        simp [hl.not_covered [name]]
      · simp [hAbove]
  rw [hFilter, hFilter, h.entries]

theorem listAll (h : d.SameOutside here cones d') (hp : p.Avoids here cones)
    (hApart : Apart cones (d.place p)) : d'.listAll p = d.listAll p := by
  unfold Disk.listAll
  rw [h.locate hp]
  cases hLocate : d.locate p with
  | error fault => rfl
  | ok l =>
    rw [← Disk.locate_eq_place hLocate] at hApart
    dsimp only
    rw [h.below hApart]

/-- What is apart from the differences is the same on both disks. -/
theorem sameBelow (h : d.SameOutside here cones d') (hp : p.Avoids here cones)
    (hApart : Apart cones (d.place p)) : d.SameBelow d' p := by
  cases hLocate : d.locate p with
  | ok l =>
    rw [← Disk.locate_eq_place hLocate] at hApart
    exact .reached hLocate ((h.locate hp).trans hLocate)
      (fun names => h.find? (hApart.not_covered names))
      fun names => .of_eq (h.inDirectory (hApart.below names))
  | error fault =>
    have hEntry : d.entry p = .error fault := by
      rw [Disk.entry, hLocate]
      rfl
    exact .nothing hEntry ((h.entry hp).trans hEntry)

/-! ### Changes -/

theorem outside_put_of_covered (d : Disk) (hl : covered cones l = true) (e : Entry) :
    (d.put l e).outside cones = d.outside cones := by
  unfold Disk.outside Disk.put Tree.put
  rw [List.filter_cons, List.filter_filter]
  simp only [hl, Bool.not_true, Bool.false_eq_true, if_false]
  refine List.filter_congr fun x _ => ?_
  by_cases hx : x.1 = l <;> simp [hx, hl]

theorem outside_put (d : Disk) (hl : covered cones l = false) (e : Entry) :
    (d.put l e).outside cones = (l, e) :: (d.outside cones).filter fun x => x.1 != l := by
  unfold Disk.outside Disk.put Tree.put
  rw [List.filter_cons, List.filter_filter, List.filter_filter]
  simp only [hl, Bool.not_false, if_true]
  congr 1
  exact List.filter_congr fun x _ => Bool.and_comm _ _

theorem put (h : d.SameOutside here cones d') (l : Location) (e : Entry) :
    (d.put l e).SameOutside here cones (d'.put l e) := by
  refine ⟨h.here_eq, h.here_eq', ?_⟩
  cases hl : covered cones l with
  | true => rw [outside_put_of_covered d' hl, outside_put_of_covered d hl, h.entries]
  | false => rw [outside_put d' hl, outside_put d hl, h.entries]

/-- The same location removed from both disks. -/
theorem remove (h : d.SameOutside here cones d')
    (hp : ∀ n < p.names.length, covered cones (Disk.place ⟨{}, here⟩ (p.upTo n)) = false) :
    (d.remove p).SameOutside here cones (d'.remove p) := by
  unfold Disk.remove
  rw [h.locate_of_above hp]
  cases d.locate p with
  | error fault => exact h
  | ok l =>
    refine ⟨h.here_eq, h.here_eq', ?_⟩
    unfold Disk.outside Tree.removeAll
    dsimp only
    rw [List.filter_comm, List.filter_comm (l := d.tree.entries)]
    exact congrArg (List.filter fun x => !l.isPrefixOf x.1) h.entries

/-- What is removed at or below some locations is not missed outside. -/
theorem remove_of_covered (hHere : d.here = here) (hp : covered cones (d.place p) = true) :
    d.SameOutside here cones (d.remove p) := by
  unfold Disk.remove
  cases hLocate : d.locate p with
  | error fault => exact .refl cones hHere
  | ok l =>
    obtain rfl := Disk.locate_eq_place hLocate
    refine ⟨hHere, hHere, ?_⟩
    unfold Disk.outside Tree.removeAll
    rw [List.filter_filter]
    refine List.filter_congr fun x _ => ?_
    by_cases hPrefix : (d.place p).isPrefixOf x.1 = true
    · obtain ⟨names, hNames⟩ := List.isPrefixOf_iff_prefix.mp hPrefix
      simp [← hNames, covered_append hp names]
    · simp [hPrefix]

/-- Nothing else is left out where nothing stands. -/
theorem of_clear {k : Location} (h : d.SameOutside here (k :: cones) d')
    (hClear : ∀ x ∈ d.tree.entries, ¬ k <+: x.1) (hClear' : ∀ x ∈ d'.tree.entries, ¬ k <+: x.1) :
    d.SameOutside here cones d' := by
  have hSame (d : Disk) (hClear : ∀ x ∈ d.tree.entries, ¬ k <+: x.1) :
      d.outside (k :: cones) = d.outside cones := by
    unfold Disk.outside
    refine List.filter_congr fun x hx => ?_
    have hElse : k.isPrefixOf x.1 = false := by
      rw [Bool.eq_false_iff, ne_eq, List.isPrefixOf_iff_prefix]
      exact hClear x hx
    simp [covered, hElse]
  exact ⟨h.here_eq, h.here_eq', by rw [← hSame d hClear, ← hSame d' hClear', h.entries]⟩

end Disk.SameOutside

/-- A disk edited at or below some locations is the same outside of them. -/
theorem Disk.Edits.sameOutside {allowed : Location → Entry → Prop} {here : Location}
    {cones : List Location} {d d' : Disk} (h : d.Edits allowed d') (hHere : d.here = here)
    (hAllowed : ∀ l e, allowed l e → covered cones l = true) : d.SameOutside here cones d' := by
  refine ⟨hHere, h.here_eq.trans hHere, ?_⟩
  induction h with
  | refl => rfl
  | put _ _ hl ih => rw [SameOutside.outside_put_of_covered _ (hAllowed _ _ hl), ih]

/-! ## Paths that stay below another one -/

theorem staysIn_take {names : List String} {depth : Nat} (h : staysIn depth names = true) (n : Nat) :
    staysIn depth (names.take n) = true := by
  induction names generalizing depth n with
  | nil => simpa using h
  | cons name r ih =>
    cases n with
    | zero => rfl
    | succ n =>
      rw [staysIn] at h
      rw [List.take_succ_cons, staysIn]
      by_cases hUp : name = ".."
      · rw [if_pos hUp, Bool.and_eq_true] at h
        rw [if_pos hUp, h.1, ih h.2 n]
        rfl
      · rw [if_neg hUp] at h
        rw [if_neg hUp]
        exact ih h n

/-- Names that never lead above a location lead to somewhere at or below it. -/
theorem Location.follow_of_staysIn {names : List String} {l above : Location}
    (h : staysIn above.length names = true) : ∃ k, Location.follow (l ++ above) names = l ++ k := by
  induction names generalizing above with
  | nil => exact ⟨above, rfl⟩
  | cons name r ih =>
    rw [staysIn] at h
    rw [Location.follow_cons, Location.enter]
    by_cases hUp : name = ".."
    · rw [if_pos hUp, Bool.and_eq_true, decide_eq_true_eq, List.length_pos_iff] at h
      rw [if_pos hUp, List.dropLast_append_of_ne_nil h.1]
      exact ih (by rw [List.length_dropLast]; exact h.2)
    · rw [if_neg hUp] at h
      rw [if_neg hUp, List.append_assoc]
      exact ih (by rw [List.length_append]; exact h)

/-- A path that stays below another one leads to a place below that of the other. -/
theorem Path.IsWithin.place {p root : Path} (h : p.IsWithin root) (d : Disk) :
    ∃ k, d.place p = d.place root ++ k := by
  obtain ⟨names, -, hStays, rfl⟩ := h
  rw [Disk.place_join]
  have hHere : staysIn ([] : Location).length names = true := hStays
  simpa using Location.follow_of_staysIn (l := d.place root) hHere

/-- On the way to a path below another one, there are those on the way to the other, and others that
are below it. -/
theorem Path.IsWithin.upTo {p root : Path} (h : p.IsWithin root) (n : Nat) :
    (∃ m, p.upTo n = root.upTo m) ∨ (p.upTo n).IsWithin root := by
  obtain ⟨names, -, hStays, rfl⟩ := h
  rcases Nat.le_total n root.names.length with hn | hn
  · exact .inl ⟨n, Path.upTo_below_of_le hn⟩
  · rw [Path.upTo_below_of_ge hn]
    by_cases hNone : names.take (n - root.names.length) = []
    · rw [hNone, Path.below_nil]
      exact .inl ⟨_, root.upTo_length.symm⟩
    · exact .inr ⟨_, hNone, staysIn_take hStays _, rfl⟩

section

variable {here : Location} {cones : List Location} {d d' : Disk} {p root : Path}

/-- Below a path that avoids some locations and leads away from them, all paths avoid them. -/
theorem Path.Avoids.within (hRoot : root.Avoids here cones)
    (hApart : Apart cones (Disk.place ⟨{}, here⟩ root)) (h : p.IsWithin root) :
    p.Avoids here cones := by
  intro n
  rcases h.upTo n with ⟨m, hm⟩ | hWithin
  · rw [hm]
    exact hRoot m
  · obtain ⟨k, hk⟩ := hWithin.place ⟨{}, here⟩
    rw [hk]
    exact hApart.not_covered k

/-- A path that never goes back comes down to its place. -/
theorem Disk.place_upTo_prefix (d : Disk) {p : Path} (hUp : ".." ∉ p.names) (n : Nat) :
    d.place (p.upTo n) <+: d.place p := by
  have hTake : ".." ∉ (p.upTo n).names := fun h => hUp (List.mem_of_mem_take h)
  rw [Disk.place, Disk.place, Location.follow_eq_append hUp, Location.follow_eq_append hTake]
  exact (List.prefix_append_right_inj _).mpr (List.take_prefix n p.names)

/-- So it does not come to a location that its place is not at or below. -/
theorem Path.avoids_of_down (hUp : ".." ∉ p.names)
    (h : ∀ k ∈ cones, ¬ k <+: Disk.place ⟨{}, here⟩ p) : p.Avoids here cones := fun n =>
  not_covered_iff.mpr fun k hk hPrefix =>
    h k hk (hPrefix.trans (Disk.place_upTo_prefix _ hUp n))

/-- A path that does not come to any of some locations, with all that is below it. -/
structure Path.IsClear (p : Path) (here : Location) (cones : List Location) : Prop where
  avoids : p.Avoids here cones
  apart : Apart cones (Disk.place ⟨{}, here⟩ p)

theorem Path.IsClear.within (hRoot : root.IsClear here cones) (h : p.IsWithin root) :
    p.Avoids here cones :=
  hRoot.avoids.within hRoot.apart h

/-- What is missing on the way to a path is at or below some locations. -/
def Path.RestsOn (p : Path) (d : Disk) (cones : List Location) : Prop :=
  ∀ n, d.tree.find? (d.place (p.upTo n)) = none → covered cones (d.place (p.upTo n)) = true

theorem Path.RestsOn.within (hRoot : root.RestsOn d cones) (hCovered : covered cones (d.place root) = true)
    (h : p.IsWithin root) : p.RestsOn d cones := by
  intro n hNone
  rcases h.upTo n with ⟨m, hm⟩ | hWithin
  · rw [hm] at hNone ⊢
    exact hRoot m hNone
  · obtain ⟨k, hk⟩ := hWithin.place d
    rw [hk]
    exact covered_append hCovered k

theorem Path.RestsOn.same (hp : p.RestsOn d cones) (h : d.SameOutside here cones d') :
    p.RestsOn d' cones := by
  intro n hNone
  rw [h.place] at hNone ⊢
  cases hCovered : covered cones (d.place (p.upTo n)) with
  | true => rfl
  | false =>
    rw [h.find? hCovered] at hNone
    rw [hp n hNone] at hCovered
    cases hCovered

/-- Making directories at or below some locations is not seen outside. -/
theorem ensureDirectories_sameOutside (hHere : d.here = here) (hp : p.RestsOn d cones) :
    d.SameOutside here cones ((ensureDirectories p).run d).2 := by
  refine (ensureDirectories_edits d p).sameOutside hHere ?_
  rintro l e ⟨⟨⟨n, rfl⟩, hNone⟩, -⟩
  exact hp n hNone

theorem write_sameOutside (hHere : d.here = here) (hp : covered cones (d.place p) = true)
    (c : Content) : d.SameOutside here cones ((write p c).run d).2 := by
  refine (write_edits d p c).sameOutside hHere ?_
  rintro l e ⟨rfl, -⟩
  exact hp

/-- A path such that something stands at its place, and all the way to it. -/
def Disk.IsThere (d : Disk) (p : Path) : Prop :=
  ∀ n, d.tree.find? (d.place (p.upTo n)) ≠ none

theorem Disk.isThere_of_entry {e : Entry} (h : d.entry p = .ok e) : d.IsThere p := by
  obtain ⟨hLocate, hFind⟩ := Disk.entry_eq_ok h
  intro n
  rcases Nat.lt_or_ge n p.names.length with hn | hn
  · rw [Disk.directory_of_locate hLocate hn]
    simp
  · rw [Path.upTo_of_length_le hn, hFind]
    simp

theorem Disk.IsThere.edited {allowed : Location → Entry → Prop} (h : d.IsThere p)
    (hEdits : d.Edits allowed d') : d'.IsThere p := by
  intro n
  rw [hEdits.place]
  exact hEdits.ne_none (h n)

theorem Disk.IsThere.same (h : d.IsThere p) (hSame : d.SameOutside here cones d')
    (hp : p.Avoids here cones) : d'.IsThere p := by
  intro n
  have hAvoids := hp n
  rw [← Disk.SameOutside.place_eq hSame.here_eq] at hAvoids
  rw [hSame.place, hSame.find? hAvoids]
  exact h n

end

/-! ## Changes on both disks -/

section

variable {here : Location} {cones : List Location} {d d' : Disk} {p : Path}

theorem makeDirectory_alike (h : d.SameOutside here cones d') (hp : p.Avoids here cones) :
    (∃ fault, d.makeDirectory p = .error fault ∧ d'.makeDirectory p = .error fault) ∨
    ∃ l, d.makeDirectory p = .ok (d.put l .directory) ∧
      d'.makeDirectory p = .ok (d'.put l .directory) := by
  unfold Disk.makeDirectory
  rw [h.locate hp]
  cases hLocate : d.locate p with
  | error fault => exact .inl ⟨fault, rfl, rfl⟩
  | ok l =>
    obtain rfl := Disk.locate_eq_place hLocate
    simp only [bind_ok, h.find? (Disk.SameOutside.not_covered h.here_eq hp)]
    cases d.tree.find? (d.place p) with
    | none => exact .inr ⟨_, rfl, rfl⟩
    | some e => exact .inl ⟨_, rfl, rfl⟩

theorem ensureDirectory_alike (h : d.SameOutside here cones d') (hp : p.Avoids here cones) :
    RunsAlike (Disk.SameOutside here cones) (ensureDirectory p) (ensureDirectory p) d d' := by
  have hIs : d'.isDirectory p = d.isDirectory p := h.ask hp _
  have hRun := ensureDirectory_run d p
  have hRun' := ensureDirectory_run d' p
  rw [hIs] at hRun'
  rcases makeDirectory_alike h hp with ⟨fault, hFault, hFault'⟩ | ⟨l, hMade, hMade'⟩
  · rw [hFault] at hRun
    rw [hFault'] at hRun'
    cases hThere : d.isDirectory p with
    | error e =>
      rw [hThere] at hRun hRun'
      cases fault <;> exact .of_run hRun hRun' h
    | ok b =>
      rw [hThere] at hRun hRun'
      cases fault <;> cases b <;> exact .of_run hRun hRun' h
  · rw [hMade] at hRun
    rw [hMade'] at hRun'
    exact .of_run hRun hRun' (h.put l .directory)

theorem Path.Avoids.parent (hp : p.Avoids here cones) : p.parent.Avoids here cones := by
  intro n
  rw [p.upTo_parent]
  exact hp _

theorem ensureDirectories_of_missing (hMake : d.makeDirectory p = .error .missing)
    (hNames : p.names ≠ []) :
    (ensureDirectories p).run d =
      (ensureDirectories p.parent >>= fun _ => ensureDirectory p).run d := by
  rw [ensureDirectories_run, hMake, run_bind]
  dsimp only
  rw [if_neg hNames]
  obtain ⟨outcome, d₁⟩ := (ensureDirectories p.parent).run d
  cases outcome <;> rfl

theorem ensureDirectories_alike (h : d.SameOutside here cones d') {p : Path}
    (hp : p.Avoids here cones) :
    RunsAlike (Disk.SameOutside here cones) (ensureDirectories p) (ensureDirectories p) d d' := by
  have hRun := ensureDirectories_run d p
  have hRun' := ensureDirectories_run d' p
  rcases makeDirectory_alike h hp with ⟨fault, hFault, hFault'⟩ | ⟨l, hMade, hMade'⟩
  · by_cases hMissing : fault = .missing
    · subst hMissing
      by_cases hNames : p.names = []
      · rw [hFault] at hRun
        rw [hFault'] at hRun'
        simp only [if_pos hNames] at hRun hRun'
        exact .of_run hRun hRun' h
      · -- the directories around come first
        refine RunsAlike.congr ?_ (ensureDirectories_of_missing hFault hNames)
          (ensureDirectories_of_missing hFault' hNames)
        exact (ensureDirectories_alike h hp.parent).bind fun _ d₁ d₁' _ _ h₁ =>
          ensureDirectory_alike h₁ hp
    · rw [hFault] at hRun
      rw [hFault'] at hRun'
      refine (ensureDirectory_alike h hp).congr (hRun.trans ?_) (hRun'.trans ?_) <;>
        cases fault <;> first | rfl | exact absurd rfl hMissing
  · rw [hMade] at hRun
    rw [hMade'] at hRun'
    exact (ensureDirectory_alike h hp).congr hRun hRun'
termination_by p.names.length
decreasing_by
  have hPos := List.length_pos_iff.mpr hNames
  simp only [Path.parent, List.length_dropLast]
  omega

theorem write_alike (h : d.SameOutside here cones d') (hp : p.Avoids here cones) (c : Content) :
    RunsAlike (Disk.SameOutside here cones) (write p c) (write p c) d d' := by
  have hRun := write_run d p c
  have hRun' := write_run d' p c
  rw [h.locate hp] at hRun'
  cases hLocate : d.locate p with
  | error fault =>
    rw [hLocate] at hRun hRun'
    exact .of_run hRun hRun' h
  | ok l =>
    obtain rfl := Disk.locate_eq_place hLocate
    rw [hLocate] at hRun hRun'
    simp only [h.find? (Disk.SameOutside.not_covered h.here_eq hp)] at hRun'
    cases hFind : d.tree.find? (d.place p) with
    | none =>
      simp only [hFind] at hRun hRun'
      exact .of_run hRun hRun' (h.put _ _)
    | some e =>
      cases e <;> simp only [hFind] at hRun hRun'
      · exact .of_run hRun hRun' h
      · exact .of_run hRun hRun' (h.put _ _)

/-- A file copied on both disks; also the place that it would have in a directory is avoided. -/
theorem copy_alike {source target : Path} (h : d.SameOutside here cones d')
    (hSource : source.Avoids here cones) (hTarget : target.Avoids here cones)
    (hInside : (target.join ⟨.relative, [source.name]⟩).Avoids here cones) :
    RunsAlike (Disk.SameOutside here cones) (copy source target) (copy source target) d d' := by
  have hPlace : d'.copyTarget source target = d.copyTarget source target := by
    have hIs : d'.isDirectory target = d.isDirectory target := h.ask hTarget _
    unfold Disk.copyTarget
    rw [hIs]
  have hAvoids : (d.copyTarget source target).Avoids here cones := by
    unfold Disk.copyTarget
    split
    · exact hInside
    · exact hTarget
  have hRun := copy_run d source target
  have hRun' := copy_run d' source target
  rw [hPlace, h.same hSource hAvoids, h.read hSource] at hRun'
  cases hSame : d.same source (d.copyTarget source target) with
  | true =>
    rw [hSame, if_pos rfl] at hRun hRun'
    exact .of_run hRun hRun' h
  | false =>
    rw [hSame, if_neg Bool.false_ne_true] at hRun hRun'
    cases hRead : d.read source with
    | error e =>
      rw [hRead] at hRun hRun'
      exact .of_run hRun hRun' h
    | ok c =>
      rw [hRead] at hRun hRun'
      obtain ⟨hOutcome, hState⟩ := write_alike h hAvoids c
      dsimp only at hRun hRun'
      cases hWrite : (write (d.copyTarget source target) c).run d with
      | mk written d₁ =>
        cases hWrite' : (write (d.copyTarget source target) c).run d' with
        | mk written' d₁' =>
          rw [hWrite, hWrite'] at hOutcome hState
          rw [hWrite] at hRun
          rw [hWrite'] at hRun'
          obtain rfl : written' = written := hOutcome
          exact .of_run hRun hRun' hState

end

end Coursebook.Files
