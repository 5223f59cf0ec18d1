import Coursebook.Proofs.Archive.Confinement
import Coursebook.Proofs.Files.Edits

/-!
# Coursebook — where unpacking puts things

Unpacking never follows a name back, so all that it puts anywhere is put straight down from some
location that the destination is below, if what is missing on the way to the destination is so too.

* `unpack_edits` — an archive at a path, however its unpacking ends.
-/

namespace Coursebook.Files

/-- A location below another one, or that itself, by names that never go back. -/
def Location.IsDown (top l : Location) : Prop := ∃ names, ".." ∉ names ∧ l = top ++ names

/-- What is missing on the way to a path is straight down from a location, and so is its place. -/
structure Path.LeadsDown (p : Path) (d : Disk) (top : Location) : Prop where
  place : top.IsDown (d.place p)
  missing : ∀ n, d.tree.find? (d.place (p.upTo n)) = none → top.IsDown (d.place (p.upTo n))

variable {d d' : Disk} {p : Path} {top : Location}

theorem Location.IsDown.append {l : Location} (h : top.IsDown l) {names : List String}
    (hUp : ".." ∉ names) : top.IsDown (l ++ names) := by
  obtain ⟨above, hAbove, rfl⟩ := h
  refine ⟨above ++ names, fun hMem => ?_, List.append_assoc ..⟩
  exact (List.mem_append.mp hMem).elim hAbove hUp

theorem Path.LeadsDown.place_below (h : p.LeadsDown d top) {names : List String}
    (hUp : ".." ∉ names) : top.IsDown (d.place (p.below names)) := by
  rw [Disk.place_join, Location.follow_eq_append hUp]
  exact h.place.append hUp

theorem Path.LeadsDown.below (h : p.LeadsDown d top) {names : List String} (hUp : ".." ∉ names) :
    (p.below names).LeadsDown d top := by
  refine ⟨h.place_below hUp, fun n hNone => ?_⟩
  rcases Nat.le_total n p.names.length with hn | hn
  · rw [Path.upTo_below_of_le hn] at hNone ⊢
    exact h.missing n hNone
  · rw [Path.upTo_below_of_ge hn]
    exact h.place_below fun hMem => hUp (List.mem_of_mem_take hMem)

theorem Path.LeadsDown.edited {allowed : Location → Entry → Prop} (h : p.LeadsDown d top)
    (hEdits : d.Edits allowed d') : p.LeadsDown d' top := by
  refine ⟨hEdits.place p ▸ h.place, fun n hNone => ?_⟩
  rw [hEdits.place] at hNone ⊢
  refine h.missing n ?_
  by_contra hSome
  exact hEdits.ne_none hSome hNone

theorem ensureDirectories_edits_down (h : p.LeadsDown d top) :
    d.Edits (fun l _ => top.IsDown l) ((ensureDirectories p).run d).2 := by
  refine (ensureDirectories_edits d p).mono ?_
  rintro l e ⟨⟨⟨n, rfl⟩, hNone⟩, -⟩
  exact h.missing n hNone

end Coursebook.Files

namespace Coursebook.Archive

open Coursebook.Files

variable {d : Disk} {destination : Path} {top : Location}

theorem unpackMember_edits (h : destination.LeadsDown d top) (wrapper : Option String)
    (m : Member) :
    d.Edits (fun l _ => top.IsDown l) ((unpackMember destination wrapper m).run d).2 := by
  unfold unpackMember
  split
  · exact .refl
  · rename_i names hTarget
    obtain ⟨hNames, hUp⟩ := Member.target?_eq_some hTarget
    dsimp only
    split
    · exact .refl
    · exact ensureDirectories_edits_down (h.below hUp)
    · -- a file: the directories around it, then the file itself
      rw [destination.parent_below hNames]
      refine run_bind_keeps .trans
        (ensureDirectories_edits_down (h.below fun hMem => hUp (List.dropLast_subset _ hMem)))
        fun _ d₁ _ hMade => (write_edits d₁ _ _).mono ?_
      rintro l e ⟨rfl, -⟩
      exact (h.edited hMade).place_below hUp

theorem unpackAll_edits (h : destination.LeadsDown d top) (wrapper : Option String)
    (members : List Member) :
    d.Edits (fun l _ => top.IsDown l) ((unpackAll destination wrapper members).run d).2 := by
  induction members generalizing d with
  | nil => exact .refl
  | cons m r ih =>
    exact run_bind_keeps .trans (unpackMember_edits h wrapper m) fun _ _ _ hOne =>
      ih (h.edited hOne)

theorem unpack_edits (archive : Path) {w : World} (h : destination.LeadsDown w.disk top) :
    w.disk.Edits (fun l _ => top.IsDown l) ((unpack archive destination).run w).2.disk := by
  have hMade := ensureDirectories_edits_down h
  generalize hRun : (unpack archive destination).run w = x
  cases unpack_run_iff.mp hRun with
  | unmade hMake | unread hMake _ =>
    rw [hMake] at hMade
    exact hMade
  | @partly d d' ms _ hMake _ hAll | @all d d' ms hMake _ hAll =>
    rw [hMake] at hMade
    have hMembers := unpackAll_edits (h.edited hMade) (wrapper? ms) ms
    rw [hAll] at hMembers
    exact hMade.trans hMembers

end Coursebook.Archive
