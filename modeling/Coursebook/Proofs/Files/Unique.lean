import Mathlib.Data.List.Nodup
import Coursebook.Proofs.Files.Edits
import Coursebook.Proofs.Files.Listing

/-!
# Coursebook — listing each thing once

The list of a tree can have two entries for one location, of which the first counts. Below a location
where there are none, it has one for each that is made since, whatever is changed on the disk; and
what is listed from there is what stands there.

* `Edits.staysUnique`, `staysUnique_remove` — changes.
* `Disk.isListing_listAll` — what is listed.
-/

namespace Coursebook.Files

variable {t t' : Tree} {l : Location} {d d' d₁ : Disk}

/-! ## One entry for each location -/

/-- No location below some other one has two entries. -/
def Tree.IsUniqueBelow (t : Tree) (l : Location) : Prop := ((t.below l).map Prod.fst).Nodup

namespace Tree

theorem IsUniqueBelow.below (h : t.IsUniqueBelow l) (names : List String) :
    t.IsUniqueBelow (l ++ names) := by
  have hInner : t.below (l ++ names) =
      (t.below l).filter fun x => (l ++ names).isPrefixOf x.1 && x.1 != l ++ names := by
    unfold Tree.below
    rw [List.filter_filter]
    refine List.filter_congr fun x _ => ?_
    by_cases hBelow : (l ++ names) <+: x.1
    · obtain ⟨more, hMore⟩ := hBelow
      rw [← hMore, List.append_assoc]
      by_cases hNames : names = [] <;> by_cases hMore : more = [] <;> simp [hNames, hMore]
    · simp [hBelow]
  rw [IsUniqueBelow, hInner]
  exact h.sublist (List.filter_sublist.map _)

theorem IsUniqueBelow.put (h : t.IsUniqueBelow l) (k : Location) (e : Entry) :
    (t.put k e).IsUniqueBelow l := by
  have hRest : ((t.entries.filter fun x => x.1 != k).filter fun x =>
      l.isPrefixOf x.1 && x.1 != l) = (t.below l).filter fun x => x.1 != k := List.filter_comm _ _ _
  have hKept : (((t.below l).filter fun x => x.1 != k).map Prod.fst).Nodup :=
    h.sublist (List.filter_sublist.map _)
  unfold IsUniqueBelow Tree.below Tree.put
  rw [List.filter_cons, hRest]
  -- the new entry may be below `l`; all others for its location are gone
  split
  · rw [List.map_cons, List.nodup_cons]
    exact ⟨by simp, hKept⟩
  · exact hKept

theorem IsUniqueBelow.removeAll (h : t.IsUniqueBelow l) (k : Location) :
    (t.removeAll k).IsUniqueBelow l := by
  unfold IsUniqueBelow Tree.below Tree.removeAll
  rw [List.filter_comm]
  exact h.sublist (List.filter_sublist.map _)

/-- Where each location has one entry, this is what stands there. -/
theorem IsUniqueBelow.find? (h : t.IsUniqueBelow l) {names : List String} (hNames : names ≠ [])
    {e : Entry} (hMem : (l ++ names, e) ∈ t.entries) : t.find? (l ++ names) = some e := by
  have hBelow {e : Entry} (hMem : (l ++ names, e) ∈ t.entries) : (l ++ names, e) ∈ t.below l :=
    List.mem_filter.mpr ⟨hMem, by simp [hNames]⟩
  obtain ⟨e', he'⟩ := Option.ne_none_iff_exists'.mp (find?_ne_none_of_mem hMem)
  have hOther := mem_entries_of_find? (by simp [hNames]) he'
  have hSame := List.inj_on_of_nodup_map h (hBelow hMem) (hBelow hOther) rfl
  rw [he', (Prod.mk.inj hSame).2]

end Tree

/-! ## Changes -/

/-- A disk has no more than one entry for any location where that was so before. -/
def Disk.StaysUnique (d d' : Disk) : Prop :=
  ∀ l, d.tree.IsUniqueBelow l → d'.tree.IsUniqueBelow l

theorem Disk.StaysUnique.refl (d : Disk) : d.StaysUnique d := fun _ h => h

theorem Disk.StaysUnique.trans (h : d.StaysUnique d₁) (h' : d₁.StaysUnique d') :
    d.StaysUnique d' := fun l hl => h' l (h l hl)

theorem Disk.Edits.staysUnique {allowed : Location → Entry → Prop} (h : d.Edits allowed d') :
    d.StaysUnique d' := by
  induction h with
  | refl => exact .refl d
  | @put d₁ l e _ _ _ ih => exact fun k hk => (ih k hk).put l e

theorem Disk.staysUnique_remove (d : Disk) (p : Path) : d.StaysUnique (d.remove p) := by
  unfold Disk.remove
  split
  · rename_i l _
    exact fun k hk => hk.removeAll l
  · exact .refl d

/-! ## Listings -/

/-- A list of all that stands below a location, each thing once. -/
structure Tree.IsListing (t : Tree) (l : Location) (listed : List (List String × Entry)) : Prop where
  unique : (listed.map Prod.fst).Nodup
  mem_iff : ∀ names e, (names, e) ∈ listed ↔ names ≠ [] ∧ t.find? (l ++ names) = some e

theorem Tree.IsListing.congr {listed : List (List String × Entry)} (h : t.IsListing l listed)
    (hSame : ∀ names, t'.find? (l ++ names) = t.find? (l ++ names)) : t'.IsListing l listed :=
  ⟨h.unique, fun names e => by rw [hSame]; exact h.mem_iff names e⟩

end Coursebook.Files
