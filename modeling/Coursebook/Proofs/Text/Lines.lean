import Coursebook.Proofs.Text.Runs
import Coursebook.Proofs.Text.Split

/-!
# Coursebook — lines

A text is its lines with line feeds between them. Where two texts are put one behind the other, the
last line of the one and the first line of the other become one line.

* `lines_append_newline`, `lines_append` — the lines of two texts behind each other, with a line feed
  between them and without.
* `intercalate_lines`, `lines_intercalate` — lines joined, and cut apart again.
-/

namespace Coursebook.Text

variable {c : Char} {s t l k : List Char} {ls r : List (List Char)}

theorem lines_append_newline (s t : List Char) : lines (s ++ '\n' :: t) = lines s ++ lines t := by
  rw [lines_eq_splitAll, lines_eq_splitAll, lines_eq_splitAll, splitAll_eq_splitOn,
    splitAll_eq_splitOn, splitAll_eq_splitOn, splitOn_append_cons]

theorem lines_newline (s : List Char) : lines ('\n' :: s) = [] :: lines s :=
  lines_append_newline [] s

theorem lines_of_not_mem (h : '\n' ∉ l) : lines l = [l] := splitAll_of_not_mem h

/-- Any other character is one more of the first line. -/
theorem lines_cons (hc : c ≠ '\n') (h : lines s = l :: r) : lines (c :: s) = (c :: l) :: r :=
  splitAll_cons hc h

theorem exists_lines_cons (s : List Char) : ∃ l r, lines s = l :: r := ⟨_, _, rfl⟩

theorem exists_lines_concat (s : List Char) : ∃ ls l, lines s = ls ++ [l] :=
  (List.eq_nil_or_concat' (lines s)).resolve_left (List.cons_ne_nil _ _)

theorem newline_not_mem_of_mem_lines (h : l ∈ lines s) : '\n' ∉ l :=
  not_mem_of_mem_splitAll (lines_eq_splitAll s ▸ h)

/-- Lines that are joined are the text that they were cut from. -/
theorem intercalate_lines (s : List Char) : ['\n'].intercalate (lines s) = s := by
  rw [lines_eq_splitAll, splitAll_eq_splitOn, List.intercalate_splitOn]

/-- No two texts have the same lines. -/
theorem lines_inj : lines s = lines t ↔ s = t := by
  rw [lines_eq_splitAll, lines_eq_splitAll, splitAll_eq_splitOn, splitAll_eq_splitOn, splitOn_inj]

theorem lines_intercalate (h : ∀ l ∈ ls, '\n' ∉ l) (hSome : ls ≠ []) :
    lines (['\n'].intercalate ls) = ls := by
  rw [lines_eq_splitAll, splitAll_eq_splitOn, List.splitOn_intercalate '\n' h hSome]

/-- Where two texts meet, the last line of the one and the first line of the other are one. -/
theorem lines_append (hs : lines s = ls ++ [l]) (ht : lines t = k :: r) :
    lines (s ++ t) = ls ++ (l ++ k) :: r := by
  have hText : s ++ t = ['\n'].intercalate (ls ++ (l ++ k) :: r) := by
    rw [intercalate_append, ← hs, ← ht, intercalate_lines, intercalate_lines]
  have hFirst : ∀ x ∈ ls ++ [l], '\n' ∉ x := fun x hx => newline_not_mem_of_mem_lines (hs ▸ hx)
  have hSecond : ∀ x ∈ k :: r, '\n' ∉ x := fun x hx => newline_not_mem_of_mem_lines (ht ▸ hx)
  have hMet : ∀ x ∈ ls ++ (l ++ k) :: r, '\n' ∉ x := by
    rw [List.forall_mem_append, List.forall_mem_cons] at *
    refine ⟨hFirst.1, ?_, hSecond.2⟩
    rw [List.mem_append, not_or]
    exact ⟨hFirst.2.1, hSecond.1⟩
  rw [hText, lines_intercalate hMet (List.append_ne_nil_of_right_ne_nil ls (List.cons_ne_nil _ r))]

end Coursebook.Text
