import Coursebook.Proofs.Text.Runs

/-!
# Coursebook — texts laid out anew

A text may be broken into other lines, or its lines set in: each stretch of blanks is written as another
one, and all else stays. The words of the text do not depend on it.

* `Respaced` — a text with other stretches of blanks.
* `Respaced.append` — where two texts meet, a stretch may go on from the one into the other.
* `Respaced.collapse_eq` — a text that is written word by word does not depend on the layout.
-/

namespace Coursebook.Text

variable {s s' t t' w : List Char}

/-- Texts that differ in their stretches of blanks only. No stretch comes from nothing, and none
vanishes. -/
inductive Respaced : List Char → List Char → Prop
  | nil : Respaced [] []
  | char {c : Char} {s s' : List Char} (hc : isBlank c = false) (h : Respaced s s') :
      Respaced (c :: s) (c :: s')
  | stretch {w w' s s' : List Char} (hw : IsRun isBlank w) (hw' : IsRun isBlank w')
      (h : Respaced s s') : Respaced (w ++ s) (w' ++ s')

theorem Respaced.refl (s : List Char) : Respaced s s := by
  induction s with
  | nil => exact .nil
  | cons c s ih =>
    by_cases hc : isBlank c = true
    · have hRun : IsRun isBlank [c] := ⟨List.cons_ne_nil c [], by simpa using hc⟩
      exact .stretch hRun hRun ih
    · exact .char (Bool.eq_false_iff.mpr hc) ih

/-- Texts behind each other may be laid out one by one, although what is one stretch where they meet
is then taken as two. -/
theorem Respaced.append (hs : Respaced s s') (ht : Respaced t t') : Respaced (s ++ t) (s' ++ t') := by
  induction hs with
  | nil => exact ht
  | char hc _ ih => exact .char hc ih
  | stretch hw hw' _ ih =>
    rw [List.append_assoc, List.append_assoc]
    exact .stretch hw hw' ih

/-- Blanks at the start of a text belong to none of its words. -/
theorem runs_append_stretch (hw : IsRun isBlank w) (s : List Char) :
    runs (fun c => !isBlank c) (w ++ s) = runs (fun c => !isBlank c) s := by
  obtain ⟨-, hBlank⟩ := hw
  induction w with
  | nil => rfl
  | cons c w ih =>
    obtain ⟨hc, hRest⟩ := List.forall_mem_cons.mp hBlank
    rw [List.cons_append, runs_cons_of_neg (by rw [hc, Bool.not_true]), ih hRest]

/-- Up to the first blank, both texts are the same, and what follows has the same words. -/
theorem Respaced.takeWhile_eq (h : Respaced s s') :
    s.takeWhile (fun c => !isBlank c) = s'.takeWhile (fun c => !isBlank c) ∧
      runs (fun c => !isBlank c) (s.dropWhile fun c => !isBlank c) =
        runs (fun c => !isBlank c) (s'.dropWhile fun c => !isBlank c) := by
  induction h with
  | nil => exact ⟨rfl, rfl⟩
  | char hc _ ih => simpa [hc] using ih
  | @stretch w w' s s' hw hw' _ ih =>
    -- both stretches end the word before them, and give none themselves
    have hStop {v : List Char} (hv : IsRun isBlank v) (u : List Char) :
        (v ++ u).takeWhile (fun c => !isBlank c) = [] ∧
          (v ++ u).dropWhile (fun c => !isBlank c) = v ++ u := by
      obtain ⟨c, v, rfl⟩ := List.exists_cons_of_ne_nil hv.1
      have hc : isBlank c = true := hv.2 c List.mem_cons_self
      simp [hc]
    obtain ⟨hTake, hDrop⟩ := hStop hw s
    obtain ⟨hTake', hDrop'⟩ := hStop hw' s'
    rw [hTake, hTake', hDrop, hDrop', runs_append_stretch hw, runs_append_stretch hw',
      runs_eq_closeWord, runs_eq_closeWord _ s', ih.1, ih.2]
    exact ⟨rfl, rfl⟩

/-- The words of a text do not depend on its layout. -/
theorem Respaced.words_eq (h : Respaced s s') : words s = words s' := by
  obtain ⟨hWord, hRest⟩ := h.takeWhile_eq
  rw [words_eq_runs, words_eq_runs, runs_eq_closeWord, runs_eq_closeWord _ s', hWord, hRest]

theorem Respaced.collapse_eq (h : Respaced s s') : collapse s = collapse s' := by
  rw [collapse, collapse, h.words_eq]

end Coursebook.Text
