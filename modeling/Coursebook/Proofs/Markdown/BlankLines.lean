import Coursebook.Markdown.Text
import Coursebook.Proofs.Text.Lines
import Mathlib.Data.List.SplitBy

/-!
# Coursebook — empty lines

A document is tidied line by line: where two or more lines with nothing but spaces and tabs stand next
to each other, one empty line takes their place. A single one stays as it is, with its spaces, and so
does every other line.

* `stretches`, `squeezed` — the lines with each stretch of empty ones written as one.
* `squeezed_eq_self_iff`, `isChain_squeezed` — lines that stay as they are, and those that are left.
* `lines_squeezedText`, `squeezedText_eq_self_iff` — the same of a text.
* `tidyLines_append_cons` — what tidying does to the lines between the first and the last.
-/

namespace Coursebook.Markdown

open Coursebook.Text

variable {l m : List Char} {ls r : List (List Char)}

/-- Lines, with the empty ones that stand next to each other taken together. -/
def stretches (ls : List (List Char)) : List (List (List Char)) :=
  ls.splitBy fun l m => isEmptyLine l && isEmptyLine m

/-- Lines, with each stretch of two or more empty ones written as one without spaces. -/
def squeezed (ls : List (List Char)) : List (List Char) :=
  (stretches ls).flatMap fun stretch => if 2 ≤ stretch.length then [[]] else stretch

/-! ## One line more -/

/-- Two empty lines next to each other belong to one stretch. -/
theorem stretches_cons_of_empty (hl : isEmptyLine l = true) (hm : isEmptyLine m = true)
    (r : List (List Char)) :
    ∃ stretch rest, stretches (m :: r) = (m :: stretch) :: rest ∧
      stretches (l :: m :: r) = (l :: m :: stretch) :: rest := by
  obtain ⟨first, rest, hFirst⟩ :=
    List.exists_cons_of_ne_nil (List.splitBy_ne_nil.mpr (List.cons_ne_nil m r) :
      stretches (m :: r) ≠ [])
  obtain ⟨hFlatten, hNil, hChain, hApart⟩ := List.splitBy_eq_iff.mp hFirst
  -- the first stretch starts with the first line
  obtain ⟨c, stretch, rfl⟩ : ∃ c stretch, first = c :: stretch :=
    List.exists_cons_of_ne_nil fun hNone => hNil (hNone ▸ List.mem_cons_self)
  obtain rfl : m = c := by
    rw [List.flatten_cons, List.cons_append, List.cons.injEq] at hFlatten
    exact hFlatten.1
  refine ⟨stretch, rest, hFirst, List.splitBy_eq_iff.mpr ⟨?_, ?_, ?_, ?_⟩⟩
  · rw [hFlatten]
    rfl
  · simpa using hNil
  · rw [List.forall_mem_cons] at hChain ⊢
    exact ⟨List.isChain_cons_cons.mpr ⟨by rw [hl, hm]; rfl, hChain.1⟩, hChain.2⟩
  · cases rest with
    | nil => exact List.isChain_singleton _
    | cons second rest =>
      rw [List.isChain_cons_cons] at hApart ⊢
      obtain ⟨⟨hSome, hSecond, hLast⟩, hRest⟩ := hApart
      exact ⟨⟨List.cons_ne_nil _ _, hSecond, by rwa [List.getLast_cons hSome]⟩, hRest⟩

theorem stretches_cons_of_not (h : (isEmptyLine l && isEmptyLine m) = false)
    (r : List (List Char)) : stretches (l :: m :: r) = [l] :: stretches (m :: r) :=
  List.splitBy_append_cons (l := [l]) r (by simpa using h)

/-- A second empty line takes nothing but the spaces of the first. -/
theorem squeezed_cons_of_empty (hl : isEmptyLine l = true) (hm : isEmptyLine m = true)
    (r : List (List Char)) : squeezed (l :: m :: r) = [] :: (squeezed (m :: r)).tail := by
  obtain ⟨stretch, rest, hShort, hLong⟩ := stretches_cons_of_empty hl hm r
  -- the stretch is written as one line with or without the line before it
  have hTail : ((if 2 ≤ (m :: stretch).length then [[]] else m :: stretch) : List (List Char)).tail =
      [] := by
    cases stretch <;> simp
  rw [squeezed, squeezed, hShort, hLong, List.flatMap_cons, List.flatMap_cons, if_pos (by simp),
    List.tail_append_of_ne_nil (by split <;> simp), hTail]
  rfl

/-- Any other line stays. -/
theorem squeezed_cons_of_not (h : (isEmptyLine l && isEmptyLine m) = false)
    (r : List (List Char)) : squeezed (l :: m :: r) = l :: squeezed (m :: r) := by
  rw [squeezed, stretches_cons_of_not h]
  rfl

/-- To tell something of all lines, it is enough to put one line more before others: an empty one
before an empty one, or any other. -/
@[elab_as_elim]
theorem induction_on_emptyLines {motive : List (List Char) → Prop} (nil : motive [])
    (single : ∀ l, motive [l])
    (empty : ∀ l m r, isEmptyLine l = true → isEmptyLine m = true → motive (m :: r) →
      motive (l :: m :: r))
    (other : ∀ l m r, (isEmptyLine l && isEmptyLine m) = false → motive (m :: r) →
      motive (l :: m :: r))
    (ls : List (List Char)) : motive ls := by
  induction ls with
  | nil => exact nil
  | cons l r ih =>
    cases r with
    | nil => exact single l
    | cons m r =>
      cases h : isEmptyLine l && isEmptyLine m with
      | true =>
        rw [Bool.and_eq_true] at h
        exact empty l m r h.1 h.2 ih
      | false => exact other l m r h ih

/-- The first line stays, or is an empty one for another. -/
theorem exists_squeezed_cons (l : List Char) (r : List (List Char)) :
    ∃ first rest, squeezed (l :: r) = first :: rest ∧ isEmptyLine first = isEmptyLine l := by
  cases r with
  | nil => exact ⟨l, [], rfl, rfl⟩
  | cons m r =>
    cases h : isEmptyLine l && isEmptyLine m with
    | true =>
      rw [Bool.and_eq_true] at h
      exact ⟨[], _, squeezed_cons_of_empty h.1 h.2 r, h.1.symm⟩
    | false => exact ⟨l, _, squeezed_cons_of_not h r, rfl⟩

theorem squeezed_ne_nil (l : List Char) (r : List (List Char)) : squeezed (l :: r) ≠ [] := by
  obtain ⟨first, rest, hSqueezed, -⟩ := exists_squeezed_cons l r
  rw [hSqueezed]
  exact List.cons_ne_nil first rest

/-- Empty lines that are all there is are written as one. -/
theorem squeezed_of_forall_empty (hTwo : 2 ≤ ls.length) (h : ∀ l ∈ ls, isEmptyLine l = true) :
    squeezed ls = [[]] := by
  have hSome : ls ≠ [] := List.ne_nil_of_length_pos (Nat.lt_of_lt_of_le Nat.two_pos hTwo)
  have hChain : ls.IsChain fun l m => (isEmptyLine l && isEmptyLine m) = true :=
    (List.pairwise_of_forall_mem_list fun l hl m hm => by rw [h l hl, h m hm]; rfl).isChain
  rw [squeezed, stretches, List.splitBy_of_isChain hSome hChain, List.flatMap_singleton, if_pos hTwo]

/-! ## Lines that stay -/

theorem length_squeezed_le (ls : List (List Char)) : (squeezed ls).length ≤ ls.length := by
  induction ls using induction_on_emptyLines with
  | nil => exact le_rfl
  | single l => exact le_rfl
  | empty l m r hl hm ih =>
    rw [squeezed_cons_of_empty hl hm]
    simp only [List.length_cons, List.length_tail] at ih ⊢
    omega
  | other l m r h ih =>
    rw [squeezed_cons_of_not h]
    simpa using ih

/-- Lines stay as they are exactly if no two empty ones stand next to each other. -/
theorem squeezed_eq_self_iff (ls : List (List Char)) :
    squeezed ls = ls ↔ ls.IsChain fun l m => isEmptyLine l = false ∨ isEmptyLine m = false := by
  induction ls using induction_on_emptyLines with
  | nil => exact iff_of_true rfl .nil
  | single l => exact iff_of_true rfl (List.isChain_singleton l)
  | empty l m r hl hm =>
    rw [List.isChain_cons_cons, hl, hm]
    refine iff_of_false (fun hSame => ?_) (fun hApart => by simp at hApart)
    -- one of the two lines is gone
    have hLength := congrArg List.length hSame
    have hLe := length_squeezed_le (m :: r)
    rw [squeezed_cons_of_empty hl hm] at hLength
    simp only [List.length_cons, List.length_tail] at hLength hLe
    omega
  | other l m r h ih =>
    rw [List.isChain_cons_cons, ← ih, ← Bool.and_eq_false_iff, squeezed_cons_of_not h, List.cons.injEq]
    simp [h]

/-- What is left has no two empty lines next to each other. -/
theorem isChain_squeezed (ls : List (List Char)) :
    (squeezed ls).IsChain fun l m => isEmptyLine l = false ∨ isEmptyLine m = false := by
  induction ls using induction_on_emptyLines with
  | nil => exact .nil
  | single l => exact List.isChain_singleton l
  | empty l m r hl hm ih =>
    obtain ⟨first, rest, hSqueezed, hFirst⟩ := exists_squeezed_cons m r
    rw [hSqueezed] at ih
    rw [squeezed_cons_of_empty hl hm, hSqueezed, List.tail_cons]
    -- the line without spaces stands for an empty one before the same lines
    rw [List.isChain_cons] at ih ⊢
    refine ⟨fun k hk => .inr ?_, ih.2⟩
    exact (ih.1 k hk).resolve_left (by rw [hFirst, hm]; exact Bool.true_eq_false.mp)
  | other l m r h ih =>
    obtain ⟨first, rest, hSqueezed, hFirst⟩ := exists_squeezed_cons m r
    rw [squeezed_cons_of_not h]
    rw [hSqueezed] at ih ⊢
    rw [← hFirst, Bool.and_eq_false_iff] at h
    exact List.isChain_cons_cons.mpr ⟨h, ih⟩

/-! ## A text -/

/-- Nothing but a line without spaces is new. -/
theorem mem_of_mem_squeezed (h : l ∈ squeezed ls) : l = [] ∨ l ∈ ls := by
  obtain ⟨stretch, hStretch, hLine⟩ := List.mem_flatMap.mp h
  split at hLine
  · exact .inl (List.mem_singleton.mp hLine)
  · have hIn : l ∈ (stretches ls).flatten := List.mem_flatten_of_mem hStretch hLine
    rw [stretches, List.flatten_splitBy] at hIn
    exact .inr hIn

/-- A text with each stretch of two or more empty lines written as one line without spaces. -/
def squeezedText (t : List Char) : List Char := ['\n'].intercalate (squeezed (lines t))

theorem squeezed_lines_ne_nil (t : List Char) : squeezed (lines t) ≠ [] := squeezed_ne_nil _ _

theorem lines_squeezedText (t : List Char) : lines (squeezedText t) = squeezed (lines t) := by
  refine lines_intercalate (fun l hl => ?_) (squeezed_lines_ne_nil t)
  rcases mem_of_mem_squeezed hl with rfl | hIn
  · exact List.not_mem_nil
  · exact newline_not_mem_of_mem_lines hIn

/-- A text stays as it is exactly if no two of its empty lines stand next to each other. -/
theorem squeezedText_eq_self_iff (t : List Char) : squeezedText t = t ↔
    (lines t).IsChain fun l m => isEmptyLine l = false ∨ isEmptyLine m = false := by
  rw [← squeezed_eq_self_iff, ← lines_squeezedText, lines_inj]

/-! ## Tidying -/

/-- A line stays before others, unless it may be one of several empty ones. -/
theorem tidyLines_cons (h : isEmptyLine l = false ∨ r = []) :
    tidyLines (l :: r) = l :: tidyLines r := by
  cases r with
  | nil => rfl
  | cons m r =>
    rw [tidyLines, h.resolve_right (List.cons_ne_nil m r), Bool.false_and, Bool.false_and,
      if_neg Bool.false_ne_true]

/-- A line that is not empty, or the last one, keeps the lines before it apart from those behind it;
before it, stretches of empty lines are written as one. -/
theorem tidyLines_append_cons (h : isEmptyLine l = false ∨ r = []) (ls : List (List Char)) :
    tidyLines (ls ++ l :: r) = squeezed ls ++ l :: tidyLines r := by
  induction ls using induction_on_emptyLines with
  | nil => exact tidyLines_cons h
  | single k =>
    have hNot : (isEmptyLine k && isEmptyLine l && !r.isEmpty) = false := by
      rcases h with h | rfl
      · rw [h, Bool.and_false, Bool.false_and]
      · exact Bool.and_false _
    show tidyLines (k :: l :: r) = k :: l :: tidyLines r
    rw [tidyLines, hNot, if_neg Bool.false_ne_true, tidyLines_cons h]
  | empty k m ls hk hm ih =>
    -- the second of two empty lines has been written already
    have hMore : (ls ++ l :: r).isEmpty = false := by simp
    rw [List.cons_append] at ih
    rw [List.cons_append, List.cons_append, tidyLines, hMore, hk, hm, Bool.not_false,
      Bool.and_self, Bool.and_self, if_pos rfl, ih,
      List.tail_append_of_ne_nil (squeezed_ne_nil m ls), squeezed_cons_of_empty hk hm]
    rfl
  | other k m ls hNot ih =>
    rw [List.cons_append] at ih
    rw [List.cons_append, List.cons_append, tidyLines, hNot, Bool.false_and,
      if_neg Bool.false_ne_true, ih, squeezed_cons_of_not hNot]
    rfl

/-- The last line stays. -/
theorem tidyLines_concat (ls : List (List Char)) (last : List Char) :
    tidyLines (ls ++ [last]) = squeezed ls ++ [last] :=
  tidyLines_append_cons (.inr rfl) ls

/-- Stretches of empty lines do not reach over a line that is not empty. -/
theorem squeezed_append_cons (h : isEmptyLine l = false) (ls r : List (List Char)) :
    squeezed (ls ++ l :: r) = squeezed ls ++ l :: squeezed r := by
  -- both sides are what stands before one more line
  rw [← List.append_left_inj [([] : List Char)], ← tidyLines_concat, List.append_assoc,
    List.cons_append, tidyLines_append_cons (.inl h), tidyLines_concat, List.append_assoc,
    List.cons_append]

end Coursebook.Markdown
