import Coursebook.Proofs.Markdown.BlankLines
import Mathlib.Order.Lattice.Nat

/-!
# Coursebook — gaps

A gap is a line feed and two or more empty lines behind it. Tidying can be told without lines: a text is
read from left to right, and each gap that is met, as long as it can be, is written as two line feeds.
Going by lines comes to the same.

Each line in a gap has a line feed on either side, so neither the first line of a text nor the last one
is ever in a gap. By lines, these two are left alone.

* `Closes` — a text and what is left of it when its gaps are closed.
* `closeGaps_gap`, `closeGaps_cons` — what going by lines does where a gap begins, and where none does.
* `closes_iff` — the two ways to close the gaps are one.
-/

namespace Coursebook.Markdown

open Coursebook.Text

variable {c : Char} {l k s t : List Char} {ls r : List (List Char)}

/-- Two or more empty lines, with the end of a line before them. -/
structure Gap where
  emptyLines : List (List Char)
  two_le : 2 ≤ emptyLines.length
  empty : ∀ l ∈ emptyLines, isEmptyLine l = true

/-- The text of lines, each with the line feed that ends it. -/
def endedLines (ls : List (List Char)) : List Char := ls.flatMap (· ++ ['\n'])

/-- The text of a gap. -/
def Gap.text (g : Gap) : List Char := '\n' :: endedLines g.emptyLines

/-- Whether a gap with some text behind it is as long as any that begins where it does. -/
def Gap.IsLongest (g : Gap) (rest : List Char) : Prop :=
  ∀ x : Gap, x.text <+: g.text ++ rest → x.text.length ≤ g.text.length

/-- A text, and what is left of it when the gaps that are met from left to right, each as long as it can
be, are written as two line feeds. -/
inductive Closes : List Char → List Char → Prop
  | nil : Closes [] []
  | gap {g : Gap} {rest t : List Char} (hLongest : g.IsLongest rest) (h : Closes rest t) :
      Closes (g.text ++ rest) ('\n' :: '\n' :: t)
  | other {c : Char} {s t : List Char} (hNone : ∀ g : Gap, ¬ g.text <+: c :: s) (h : Closes s t) :
      Closes (c :: s) (c :: t)

/-- A text with its gaps closed, line by line. -/
def closeGaps (s : List Char) : List Char :=
  match lines s with
  | [] => []
  | first :: rest => ['\n'].intercalate (first :: tidyLines rest)

/-- A text is tidied by closing its gaps and taking the blanks off its ends. -/
theorem tidy_eq_trim_closeGaps (s : List Char) : tidy s = trim (closeGaps s) := rfl

theorem closeGaps_eq (h : lines s = l :: r) :
    closeGaps s = ['\n'].intercalate (l :: tidyLines r) := by
  rw [closeGaps, h]

/-! ## Where a gap begins -/

theorem newline_not_mem_of_isEmptyLine (h : isEmptyLine l = true) : '\n' ∉ l := by
  intro hBreak
  exact absurd (List.all_eq_true.mp h _ hBreak) (by decide)

theorem lines_endedLines_append (h : ∀ l ∈ ls, isEmptyLine l = true) (s : List Char) :
    lines (endedLines ls ++ s) = ls ++ lines s := by
  induction ls with
  | nil => rfl
  | cons l ls ih =>
    obtain ⟨hl, hls⟩ := List.forall_mem_cons.mp h
    have hText : endedLines (l :: ls) ++ s = l ++ '\n' :: (endedLines ls ++ s) := by
      simp [endedLines]
    rw [hText, lines_append_newline, lines_of_not_mem (newline_not_mem_of_isEmptyLine hl), ih hls,
      List.cons_append, List.nil_append, List.cons_append]

theorem Gap.lines_append (g : Gap) (rest : List Char) :
    lines (g.text ++ rest) = [] :: (g.emptyLines ++ lines rest) := by
  rw [← lines_endedLines_append g.empty]
  exact lines_newline _

/-- A text whose first lines are empty begins with them. -/
theorem endedLines_append_lines (ls : List (List Char)) (hs : lines s = ls ++ r) (hr : r ≠ []) :
    endedLines ls ++ ['\n'].intercalate r = s := by
  obtain ⟨l, r, rfl⟩ := List.exists_cons_of_ne_nil hr
  rw [← intercalate_lines s, hs]
  clear hs
  induction ls with
  | nil => rfl
  | cons k ls ih =>
    have hCons : endedLines (k :: ls) = k ++ '\n' :: endedLines ls := by simp [endedLines]
    obtain ⟨m, ms, hMore⟩ := List.exists_cons_of_ne_nil (List.append_ne_nil_of_right_ne_nil ls hr)
    rw [hCons, List.cons_append, hMore, List.intercalate_cons_cons, ← hMore, ← ih]
    simp

/-- Behind a gap that is as long as it can be, there is a line that is not empty, or the last one. -/
theorem Gap.IsLongest.first_line {g : Gap} (h : g.IsLongest s) (hs : lines s = l :: r) :
    isEmptyLine l = false ∨ r = [] := by
  rw [or_iff_not_imp_right, ← Bool.not_eq_true]
  intro hr hl
  -- otherwise the line would be one more of the gap
  have hEmpty : ∀ k ∈ g.emptyLines ++ [l], isEmptyLine k = true :=
    List.forall_mem_append.mpr ⟨g.empty, by simpa using hl⟩
  let longer : Gap := ⟨g.emptyLines ++ [l], by simp [g.two_le.trans], hEmpty⟩
  have hText : longer.text = g.text ++ endedLines [l] := by
    simp [longer, Gap.text, endedLines]
  have hStart : longer.text <+: g.text ++ s := by
    rw [hText, List.prefix_append_right_inj]
    exact ⟨_, endedLines_append_lines [l] hs hr⟩
  have hLength := h longer hStart
  rw [hText, List.length_append, endedLines, List.flatMap_singleton, List.length_append,
    List.length_singleton] at hLength
  omega

theorem closeGaps_gap {g : Gap} (h : g.IsLongest s) :
    closeGaps (g.text ++ s) = '\n' :: '\n' :: closeGaps s := by
  obtain ⟨l, r, hs⟩ := exists_lines_cons s
  rw [closeGaps_eq (g.lines_append s), closeGaps_eq hs, hs, tidyLines_append_cons (h.first_line hs),
    squeezed_of_forall_empty g.two_le g.empty]
  simp [List.intercalate_cons_cons]

/-! ## Where none does -/

/-- Behind a line feed that begins no gap, the first line stays. -/
theorem tidyLines_of_not_gap (h : ∀ g : Gap, ¬ g.text <+: '\n' :: s) (hs : lines s = l :: r) :
    tidyLines (l :: r) = l :: tidyLines r := by
  cases r with
  | nil => rfl
  | cons k r =>
    have hNot : (isEmptyLine l && isEmptyLine k && !r.isEmpty) = false := by
      rw [Bool.eq_false_iff]
      intro hGap
      simp only [Bool.and_eq_true, Bool.not_eq_true', List.isEmpty_eq_false_iff] at hGap
      obtain ⟨⟨hl, hk⟩, hr⟩ := hGap
      let g : Gap := ⟨[l, k], le_rfl, by simp [hl, hk]⟩
      refine h g ((List.prefix_cons_inj '\n').mpr ?_)
      exact ⟨_, endedLines_append_lines [l, k] hs hr⟩
    rw [tidyLines, hNot, if_neg Bool.false_ne_true]

theorem closeGaps_cons (h : ∀ g : Gap, ¬ g.text <+: c :: s) :
    closeGaps (c :: s) = c :: closeGaps s := by
  obtain ⟨l, r, hs⟩ := exists_lines_cons s
  rw [closeGaps_eq hs]
  by_cases hc : c = '\n'
  · subst hc
    rw [closeGaps_eq (lines_newline s), hs, tidyLines_of_not_gap h hs, List.intercalate_cons_cons]
    rfl
  · rw [closeGaps_eq (lines_cons hc hs), intercalate_cons, intercalate_cons, List.cons_append]

/-! ## All of a text -/

/-- Where a gap begins, there is one that is as long as it can be. -/
theorem exists_longest {g : Gap} (h : g.text <+: s) :
    ∃ (x : Gap) (rest : List Char), s = x.text ++ rest ∧ x.IsLongest rest := by
  let lengths : Set Nat := {n | ∃ x : Gap, x.text <+: s ∧ x.text.length = n}
  have hBound : BddAbove lengths := by
    refine ⟨s.length, ?_⟩
    rintro n ⟨x, hx, rfl⟩
    exact hx.length_le
  obtain ⟨x, ⟨rest, rfl⟩, hMax⟩ := Nat.sSup_mem (s := lengths) ⟨_, g, h, rfl⟩ hBound
  refine ⟨x, rest, rfl, fun y hy => ?_⟩
  rw [hMax]
  exact le_csSup hBound ⟨y, hy, rfl⟩

theorem exists_closes (s : List Char) : ∃ t, Closes s t := by
  -- a gap is passed over at once, so the induction is on the length
  induction hLength : s.length using Nat.strong_induction_on generalizing s with
  | _ n ih =>
    subst hLength
    cases s with
    | nil => exact ⟨[], .nil⟩
    | cons c s =>
      by_cases hSome : ∃ g : Gap, g.text <+: c :: s
      · obtain ⟨g, hg⟩ := hSome
        obtain ⟨x, rest, hText, hLongest⟩ := exists_longest hg
        have hShorter : rest.length < (c :: s).length := by
          rw [hText, List.length_append, Gap.text, List.length_cons]
          omega
        obtain ⟨t, ht⟩ := ih _ hShorter rest rfl
        rw [hText]
        exact ⟨_, .gap hLongest ht⟩
      · obtain ⟨t, ht⟩ := ih _ (Nat.lt_succ_self _) s rfl
        exact ⟨_, .other (not_exists.mp hSome) ht⟩

theorem Closes.eq_closeGaps (h : Closes s t) : t = closeGaps s := by
  induction h with
  | nil => rfl
  | gap hLongest _ ih => rw [closeGaps_gap hLongest, ih]
  | other hNone _ ih => rw [closeGaps_cons hNone, ih]

/-- There is one way to close the gaps of a text, and going by lines is it. -/
theorem closes_iff : Closes s t ↔ t = closeGaps s := by
  refine ⟨Closes.eq_closeGaps, ?_⟩
  rintro rfl
  obtain ⟨t, ht⟩ := exists_closes s
  rwa [← ht.eq_closeGaps]

/-- Nothing but line feeds is new. -/
theorem Closes.mem (h : Closes s t) (hc : c ∈ t) : c = '\n' ∨ c ∈ s := by
  induction h with
  | nil => exact .inr hc
  | gap _ _ ih =>
    rw [List.mem_cons, List.mem_cons] at hc
    rcases hc with hc | hc | hc
    · exact .inl hc
    · exact .inl hc
    · exact (ih hc).imp_right (List.mem_append_right _)
  | other _ _ ih =>
    rcases List.mem_cons.mp hc with rfl | hc
    · exact .inr List.mem_cons_self
    · exact (ih hc).imp_right (List.mem_cons_of_mem _)

end Coursebook.Markdown
