import Coursebook.Text.CodeSet
import Coursebook.Proofs.Text.Words

/-!
# Coursebook — texts cut and joined

Cutting a text at every separator undoes the joining of parts that have none in them. Where parts have
separators in them, they come apart further.

* `splitOn_intercalate_eq_flatMap` — parts joined and cut again.
* `splitAll_eq_splitOn`, `lines_eq_splitAll` — the three ways to cut a text are one.
-/

namespace Coursebook.Text

/-! ## Pieces -/

/-- In the pieces between the elements that satisfy a predicate, none does. -/
theorem not_of_mem_splitOnP {α : Type} {p : α → Bool} {s w : List α} (h : w ∈ s.splitOnP p) :
    ∀ c ∈ w, p c = false := by
  induction s generalizing w with
  | nil => simp_all
  | cons c s ih =>
    rw [List.splitOnP_cons_eq_if_modifyHead] at h
    obtain ⟨v, vs, hPieces⟩ := List.exists_cons_of_ne_nil (List.splitOnP_ne_nil p s)
    rw [hPieces] at h ih
    cases hc : p c with
    | false =>
      -- the element belongs to the first of the pieces that come after
      simp only [hc, Bool.false_eq_true, if_false, List.modifyHead_cons, List.mem_cons] at h
      rcases h with rfl | hRest
      · exact List.forall_mem_cons.mpr ⟨hc, ih List.mem_cons_self⟩
      · exact ih (List.mem_cons_of_mem v hRest)
    | true =>
      simp only [hc, if_true] at h
      rcases List.mem_cons.mp h with rfl | hRest
      · exact List.forall_mem_nil _
      · exact ih hRest

section

variable {α : Type} [BEq α] [LawfulBEq α] {a : α} {s t w : List α} {parts : List (List α)}

theorem splitOn_append_cons (s t : List α) :
    (s ++ a :: t).splitOn a = s.splitOn a ++ t.splitOn a :=
  List.splitOnP_append_cons s t (beq_self_eq_true a)

theorem splitOn_of_not_mem (h : a ∉ s) : s.splitOn a = [s] :=
  List.splitOnP_eq_singleton fun _ hb => beq_eq_false_iff_ne.mpr fun hSame => h (hSame ▸ hb)

/-- No piece has a separator in it. -/
theorem not_mem_of_mem_splitOn (h : w ∈ s.splitOn a) : a ∉ w := by
  intro ha
  simpa using not_of_mem_splitOnP h a ha

/-- Parts with separators in them come apart further. -/
theorem splitOn_intercalate_eq_flatMap (h : parts ≠ []) :
    ([a].intercalate parts).splitOn a = parts.flatMap (·.splitOn a) := by
  induction parts with
  | nil => exact absurd rfl h
  | cons s r ih =>
    cases r with
    | nil => rw [List.intercalate_singleton, List.flatMap_singleton]
    | cons t r =>
      rw [List.intercalate_cons_cons, List.append_assoc, List.singleton_append,
        splitOn_append_cons, ih (List.cons_ne_nil t r), ← List.flatMap_cons]

/-- No two texts are cut to the same pieces. -/
theorem splitOn_inj : s.splitOn a = t.splitOn a ↔ s = t := by
  refine ⟨fun h => ?_, fun h => by rw [h]⟩
  calc s
    _ = [a].intercalate (s.splitOn a) := (List.intercalate_splitOn a).symm
    _ = [a].intercalate (t.splitOn a) := by rw [h]
    _ = t := List.intercalate_splitOn a

end

/-! ## Parts of a text -/

variable {sep : Char}

@[simp] theorem splitAll_nil : splitAll sep [] = [[]] := rfl

@[simp] theorem splitAll_sep (s : List Char) : splitAll sep (sep :: s) = [] :: splitAll sep s := by
  simp [splitAll]

/-- Any other character is one more of the first part. -/
theorem splitAll_cons {c : Char} {s w : List Char} {ws : List (List Char)} (hc : c ≠ sep)
    (h : splitAll sep s = w :: ws) : splitAll sep (c :: s) = (c :: w) :: ws := by
  unfold splitAll at h ⊢
  rw [List.foldr_cons]
  generalize s.foldr _ _ = parts at h ⊢
  rw [List.cons.injEq] at h
  simp [hc, h.1, h.2]

theorem splitAll_eq_splitOn (sep : Char) (s : List Char) : splitAll sep s = s.splitOn sep := by
  induction s with
  | nil => rfl
  | cons c s ih =>
    rw [List.splitOn, List.splitOnP_cons_eq_if_modifyHead, ← List.splitOn, ← ih]
    by_cases hc : c = sep
    · rw [hc, splitAll_sep, if_pos (beq_self_eq_true sep)]
    · obtain ⟨w, ws, hParts⟩ : ∃ w ws, splitAll sep s = w :: ws := ⟨_, _, rfl⟩
      rw [splitAll_cons hc hParts, hParts, if_neg (by simpa using hc)]
      rfl

/-- A text without a separator is one part. -/
theorem splitAll_of_not_mem {w : List Char} (hw : sep ∉ w) : splitAll sep w = [w] := by
  rw [splitAll_eq_splitOn, splitOn_of_not_mem hw]

/-- No part has a separator in it. -/
theorem not_mem_of_mem_splitAll {s w : List Char} (h : w ∈ splitAll sep s) : sep ∉ w :=
  not_mem_of_mem_splitOn (splitAll_eq_splitOn sep s ▸ h)

/-- Parts joined by a separator that none of them has are what the cutting gives. -/
theorem splitAll_intercalate {w : List Char} {ws : List (List Char)} (h : ∀ v ∈ w :: ws, sep ∉ v) :
    splitAll sep ([sep].intercalate (w :: ws)) = w :: ws := by
  rw [splitAll_eq_splitOn, List.splitOn_intercalate sep h (List.cons_ne_nil w ws)]

/-- The lines of a text are what it is cut to at the line feeds. -/
theorem lines_eq_splitAll (s : List Char) : lines s = splitAll '\n' s := rfl

end Coursebook.Text
