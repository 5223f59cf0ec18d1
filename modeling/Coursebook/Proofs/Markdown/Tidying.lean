import Coursebook.Proofs.Markdown.Gaps

/-!
# Coursebook — tidying

Tidying a text changes the number of its empty lines and nothing else. The blanks at both ends are taken
off, whatever they are, and they never belong to a gap between two lines that stay: a character that is
not blank stands on its line, and no gap reaches over it.

* `paragraphs_squeezed` — empty lines that are taken together leave the paragraphs as they are.
* `closeGaps_append_cons` — no gap reaches over a character that is not blank.
* `tidy_append_append` — what a text between blanks is when it is tidied.
* `tidy_keeps_paragraphs` — what tidying does to any text.
-/

namespace Coursebook.Markdown

open Coursebook.Text

variable {c : Char} {l s t : List Char} {ls r : List (List Char)}

/-! ## Paragraphs -/

/-- The paragraphs of lines: the stretches of lines that are not empty, in order. -/
def paragraphs (ls : List (List Char)) : List (List (List Char)) :=
  (ls.splitOnP isEmptyLine).filter fun p => !p.isEmpty

theorem splitOnP_cons_of_empty (hl : isEmptyLine l = true) (r : List (List Char)) :
    (l :: r).splitOnP isEmptyLine = [] :: r.splitOnP isEmptyLine := by
  rw [List.splitOnP_cons_eq_if_modifyHead, if_pos hl]

theorem splitOnP_cons_of_not (hl : isEmptyLine l = false) {p : List (List Char)}
    {ps : List (List (List Char))} (hr : r.splitOnP isEmptyLine = p :: ps) :
    (l :: r).splitOnP isEmptyLine = (l :: p) :: ps := by
  rw [List.splitOnP_cons_eq_if_modifyHead, hl, if_neg Bool.false_ne_true, hr, List.modifyHead_cons]

/-- The lines of the paragraphs are those that are not empty. -/
theorem flatten_paragraphs (ls : List (List Char)) :
    (paragraphs ls).flatten = ls.filter fun l => !isEmptyLine l := by
  rw [paragraphs, List.flatten_filter_not_isEmpty]
  induction ls with
  | nil => rfl
  | cons l r ih =>
    obtain ⟨p, ps, hr⟩ := List.exists_cons_of_ne_nil (List.splitOnP_ne_nil isEmptyLine r)
    cases hl : isEmptyLine l with
    | true =>
      rw [splitOnP_cons_of_empty hl, List.flatten_cons, ih, List.filter_cons_of_neg (by simp [hl])]
      rfl
    | false =>
      rw [splitOnP_cons_of_not hl hr, List.filter_cons_of_pos (by simp [hl]), ← ih, hr]
      rfl

/-- Of the pieces between empty lines none but empty ones are dropped, and the first one stays, which
may be part of a longer one. -/
theorem splitOnP_squeezed (ls : List (List Char)) :
    ∃ p ps qs, (squeezed ls).splitOnP isEmptyLine = p :: ps ∧ ls.splitOnP isEmptyLine = p :: qs ∧
      (ps.filter fun p => !p.isEmpty) = qs.filter fun p => !p.isEmpty := by
  -- a line put in front may belong to the first piece, so the filter is on the others alone
  induction ls using induction_on_emptyLines with
  | nil => exact ⟨[], [], [], rfl, rfl, rfl⟩
  | single l =>
    obtain ⟨p, ps, hLine⟩ := List.exists_cons_of_ne_nil (List.splitOnP_ne_nil isEmptyLine [l])
    exact ⟨p, ps, ps, hLine, hLine, rfl⟩
  | empty l m r hl hm ih =>
    obtain ⟨first, rest, hSqueezed, hFirst⟩ := exists_squeezed_cons m r
    obtain ⟨p, ps, qs, hPieces, hLines, hSame⟩ := ih
    -- the line in front is dropped, and with it an empty piece
    rw [hSqueezed, splitOnP_cons_of_empty (hFirst.trans hm), List.cons.injEq] at hPieces
    obtain ⟨rfl, rfl⟩ := hPieces
    refine ⟨[], _, [] :: qs, ?_, ?_, hSame⟩
    · rw [squeezed_cons_of_empty hl hm, hSqueezed, List.tail_cons]
      exact splitOnP_cons_of_empty rfl rest
    · rw [splitOnP_cons_of_empty hl, hLines]
  | other l m r hNot ih =>
    obtain ⟨p, ps, qs, hPieces, hLines, hSame⟩ := ih
    rw [squeezed_cons_of_not hNot]
    cases hl : isEmptyLine l with
    | true =>
      refine ⟨[], p :: ps, p :: qs, ?_, ?_, ?_⟩
      · rw [splitOnP_cons_of_empty hl, hPieces]
      · rw [splitOnP_cons_of_empty hl, hLines]
      · rw [List.filter_cons, List.filter_cons, hSame]
    | false =>
      exact ⟨l :: p, ps, qs, splitOnP_cons_of_not hl hPieces, splitOnP_cons_of_not hl hLines, hSame⟩

/-- However many empty lines stand between two paragraphs, they are the same. -/
theorem paragraphs_squeezed (ls : List (List Char)) : paragraphs (squeezed ls) = paragraphs ls := by
  obtain ⟨p, ps, qs, hPieces, hLines, hSame⟩ := splitOnP_squeezed ls
  rw [paragraphs, paragraphs, hPieces, hLines, List.filter_cons, List.filter_cons, hSame]

/-! ## Characters that are not blank -/

theorem ne_newline (hc : isBlank c = false) : c ≠ '\n' := by
  rintro rfl
  exact absurd hc (by decide)

theorem not_isEmptyLine_of_mem (hc : isBlank c = false) (h : c ∈ l) : isEmptyLine l = false := by
  rw [Bool.eq_false_iff]
  intro hEmpty
  have hSpace := List.all_eq_true.mp hEmpty c h
  rw [Bool.or_eq_true, decide_eq_true_eq, decide_eq_true_eq] at hSpace
  rcases hSpace with rfl | rfl <;> exact absurd hc (by decide)

/-- A line that is not empty, or the last one, keeps the lines before it apart from those behind it. -/
theorem exists_closeGaps_eq (ls : List (List Char)) :
    ∃ before, ∀ s l r, lines s = ls ++ l :: r → isEmptyLine l = false ∨ r = [] →
      closeGaps s = ['\n'].intercalate (before ++ l :: tidyLines r) := by
  cases ls with
  | nil => exact ⟨[], fun s l r hs _ => closeGaps_eq hs⟩
  | cons first ls =>
    refine ⟨first :: squeezed ls, fun s l r hs h => ?_⟩
    rw [List.cons_append, ← tidyLines_append_cons h]
    exact closeGaps_eq hs

/-- No gap reaches over a character that is not blank. -/
theorem closeGaps_append_cons (hc : isBlank c = false) (s t : List Char) :
    closeGaps (s ++ c :: t) = closeGaps s ++ c :: closeGaps t := by
  obtain ⟨l, r, ht⟩ := exists_lines_cons t
  obtain ⟨ls, k, hs⟩ := exists_lines_concat s
  have hMet := lines_append hs (lines_cons (ne_newline hc) ht)
  have hSome : isEmptyLine (k ++ c :: l) = false :=
    not_isEmptyLine_of_mem hc (List.mem_append_right k List.mem_cons_self)
  have hCons : c :: closeGaps t = ['\n'].intercalate ((c :: l) :: tidyLines r) := by
    rw [closeGaps_eq ht, intercalate_cons, intercalate_cons, List.cons_append]
  obtain ⟨before, hBefore⟩ := exists_closeGaps_eq ls
  rw [hBefore _ _ _ hMet (.inl hSome), hBefore _ _ _ hs (.inr rfl), hCons]
  exact intercalate_append ['\n'] k (c :: l) before (tidyLines r)

theorem closeGaps_cons_of_not (hc : isBlank c = false) (t : List Char) :
    closeGaps (c :: t) = c :: closeGaps t := closeGaps_append_cons hc [] t

theorem closeGaps_concat (hc : isBlank c = false) (s : List Char) :
    closeGaps (s ++ [c]) = closeGaps s ++ [c] := closeGaps_append_cons hc s []

/-- Blanks give nothing but blanks. -/
theorem forall_isBlank_closeGaps (h : ∀ c ∈ s, isBlank c = true) :
    ∀ c ∈ closeGaps s, isBlank c = true := by
  intro c hc
  rcases (closes_iff.mpr rfl).mem hc with rfl | hc
  · rfl
  · exact h c hc

/-! ## A text between blanks -/

/-- A text that starts and ends with something other than a blank, if there is anything in it. -/
structure IsTrimmed (t : List Char) : Prop where
  head : ∀ c ∈ t.head?, isBlank c = false
  last : ∀ c ∈ t.getLast?, isBlank c = false

theorem isTrimmed_trim (s : List Char) : IsTrimmed (trim s) where
  head _ hc := not_of_head?_stripWhile hc
  last _ hc := not_of_getLast?_dropEndWhile hc

theorem IsTrimmed.exists_cons (h : IsTrimmed t) (hSome : t ≠ []) :
    ∃ c s, t = c :: s ∧ isBlank c = false := by
  obtain ⟨c, s, rfl⟩ := List.exists_cons_of_ne_nil hSome
  exact ⟨c, s, rfl, h.head c rfl⟩

theorem IsTrimmed.exists_concat (h : IsTrimmed t) (hSome : t ≠ []) :
    ∃ s c, t = s ++ [c] ∧ isBlank c = false := by
  obtain ⟨s, c, rfl⟩ := (List.eq_nil_or_concat' t).resolve_left hSome
  exact ⟨s, c, rfl, h.last c List.getLast?_concat⟩

/-- What is not blank at the ends of a text stays there. -/
theorem isTrimmed_closeGaps (h : IsTrimmed t) : IsTrimmed (closeGaps t) := by
  by_cases hSome : t = []
  · subst hSome
    exact h
  constructor
  · obtain ⟨c, s, rfl, hc⟩ := h.exists_cons hSome
    rw [closeGaps_cons_of_not hc]
    simpa using hc
  · obtain ⟨s, c, rfl, hc⟩ := h.exists_concat hSome
    rw [closeGaps_concat hc]
    simpa using hc

/-- Where the first line and the last one are not empty, each stretch of empty lines is written as one. -/
theorem closeGaps_eq_squeezedText (h : IsTrimmed t) : closeGaps t = squeezedText t := by
  by_cases hSome : t = []
  · rw [hSome]
    rfl
  -- both lines hold a character that is not blank
  have hFirst : ∃ l r, lines t = l :: r ∧ isEmptyLine l = false := by
    obtain ⟨c, s, rfl, hc⟩ := h.exists_cons hSome
    obtain ⟨l, r, hs⟩ := exists_lines_cons s
    exact ⟨c :: l, r, lines_cons (ne_newline hc) hs, not_isEmptyLine_of_mem hc List.mem_cons_self⟩
  have hLast : ∃ ls l, lines t = ls ++ [l] ∧ isEmptyLine l = false := by
    obtain ⟨s, c, rfl, hc⟩ := h.exists_concat hSome
    obtain ⟨ls, l, hs⟩ := exists_lines_concat s
    have hOne : lines [c] = [[c]] := lines_cons (ne_newline hc) rfl
    exact ⟨ls, l ++ [c], lines_append hs hOne,
      not_isEmptyLine_of_mem hc (List.mem_append_right l List.mem_cons_self)⟩
  obtain ⟨first, r, hFirst, hNot⟩ := hFirst
  obtain ⟨ls, last, hLast, hNotLast⟩ := hLast
  rw [closeGaps_eq hFirst, ← tidyLines_cons (.inl hNot), ← hFirst, hLast, tidyLines_concat,
    squeezedText, hLast, squeezed_append_cons hNotLast]
  rfl

/-- No gap of a text is longer for blanks around it. -/
theorem closeGaps_append_append (h : IsTrimmed t) (hSome : t ≠ []) (a b : List Char) :
    closeGaps (a ++ t ++ b) = closeGaps a ++ closeGaps t ++ closeGaps b := by
  -- the text is cut at its last character, then at its first
  have hBehind : closeGaps (a ++ t ++ b) = closeGaps (a ++ t) ++ closeGaps b := by
    obtain ⟨s, c, rfl, hc⟩ := h.exists_concat hSome
    rw [← List.append_assoc, List.append_assoc, List.singleton_append, closeGaps_append_cons hc,
      closeGaps_concat hc, List.append_assoc, List.singleton_append]
  have hBefore : closeGaps (a ++ t) = closeGaps a ++ closeGaps t := by
    obtain ⟨c, s, rfl, hc⟩ := h.exists_cons hSome
    rw [closeGaps_append_cons hc, closeGaps_cons_of_not hc]
  rw [hBehind, hBefore]

/-- Of a text between blanks the blanks are dropped, and each stretch of empty lines in it is written as
one. -/
theorem tidy_append_append {a b : List Char} (ha : ∀ c ∈ a, isBlank c = true)
    (hb : ∀ c ∈ b, isBlank c = true) (h : IsTrimmed t) :
    tidy (a ++ t ++ b) = squeezedText t := by
  rw [tidy_eq_trim_closeGaps, trim]
  by_cases hSome : t = []
  · -- there are blanks alone
    have hBlank : ∀ c ∈ closeGaps (a ++ b), isBlank c = true :=
      forall_isBlank_closeGaps (List.forall_mem_append.mpr ⟨ha, hb⟩)
    rw [hSome, List.append_nil, stripWhile, List.dropWhile_eq_nil_iff.mpr hBlank]
    rfl
  · have hEnds := isTrimmed_closeGaps h
    rw [closeGaps_append_append h hSome, stripWhile_append (forall_isBlank_closeGaps ha)
      (forall_isBlank_closeGaps hb) hEnds.head hEnds.last, closeGaps_eq_squeezedText h]

theorem squeezedText_squeezedText (t : List Char) :
    squeezedText (squeezedText t) = squeezedText t := by
  rw [squeezedText_eq_self_iff, lines_squeezedText]
  exact isChain_squeezed _

/-! ## Any text -/

/--
**Tidying takes nothing but empty lines.** The gaps of a text are closed, from left to right and each as
long as it can be, and the blanks are taken off the ends. Of the text without these blanks, all lines that
are not empty stay as they are, in order, with an empty line between two of them exactly if there was
one. No two empty lines are left next to each other, and tidying once more changes nothing.
-/
theorem tidy_keeps_paragraphs (m : List Char) :
    (∀ t, Closes m t ↔ t = closeGaps m) ∧ tidy m = trim (closeGaps m) ∧
    (lines (tidy m)).IsChain (fun l k => isEmptyLine l = false ∨ isEmptyLine k = false) ∧
    (∃ before text after, m = before ++ text ++ after ∧
      (∀ c ∈ before ++ after, isBlank c = true) ∧ IsTrimmed text ∧ tidy m = squeezedText text ∧
      ((lines (tidy m)).filter fun l => !isEmptyLine l) =
        ((lines text).filter fun l => !isEmptyLine l) ∧
      paragraphs (lines (tidy m)) = paragraphs (lines text)) ∧
    tidy (tidy m) = tidy m := by
  obtain ⟨before, after, hText, hBefore, hAfter⟩ := exists_append_stripWhile isBlank m
  have hTrimmed := isTrimmed_trim m
  have hTidy : tidy m = squeezedText (trim m) := by
    conv_lhs => rw [hText]
    exact tidy_append_append hBefore hAfter hTrimmed
  have hLines : lines (tidy m) = squeezed (lines (trim m)) := by rw [hTidy, lines_squeezedText]
  have hParagraphs : paragraphs (lines (tidy m)) = paragraphs (lines (trim m)) := by
    rw [hLines, paragraphs_squeezed]
  refine ⟨fun t => closes_iff, tidy_eq_trim_closeGaps m, ?_, ?_, ?_⟩
  · rw [hLines]
    exact isChain_squeezed _
  · refine ⟨before, trim m, after, hText, ?_, hTrimmed, hTidy, ?_, hParagraphs⟩
    · exact List.forall_mem_append.mpr ⟨hBefore, hAfter⟩
    · rw [← flatten_paragraphs, ← flatten_paragraphs, hParagraphs]
  · -- a tidied text has no blanks at its ends either
    have hAgain : IsTrimmed (tidy m) := by
      rw [hTidy, ← closeGaps_eq_squeezedText hTrimmed]
      exact isTrimmed_closeGaps hTrimmed
    have hSame := tidy_append_append (List.forall_mem_nil _) (List.forall_mem_nil _) hAgain
    rw [List.nil_append, List.append_nil] at hSame
    rw [hSame, hTidy, squeezedText_squeezedText]

/-- Indentation and the spaces of a single empty line are kept. -/
example : tidy " \n\ta\n \n\t\n\n  b \n \nc\n\n".toList = "a\n\n  b \n \nc".toList := by decide

end Coursebook.Markdown
