import Coursebook.Proofs.Text.Split
import Mathlib.Data.List.Chain

/-!
# Coursebook — runs of characters

A text falls into the maximal runs of the characters that satisfy a predicate and what stands between
them. Runs written with one separator between neighbours can be read back, and what is written so has
no separator at its ends and no two of them next to each other.

* `words_eq_runs` — the words of a text are its runs of characters that are not blank.
* `isSpaced_intercalate` — where the separators stand in runs that are joined.
* `runs_intercalate` — runs joined and read back.
-/

namespace Coursebook.Text

variable {p : Char → Bool} {c sep : Char} {s t w : List Char} {ws : List (List Char)}

/-- A run ends where a character does not satisfy the predicate. -/
theorem takeWhile_append_cons (h : ∀ d ∈ s, p d = true) (hc : p c = false) (t : List Char) :
    (s ++ c :: t).takeWhile p = s := by
  rw [List.takeWhile_append_of_pos h, List.takeWhile_cons_of_neg (Bool.eq_false_iff.mp hc),
    List.append_nil]

theorem dropWhile_append_cons (h : ∀ d ∈ s, p d = true) (hc : p c = false) (t : List Char) :
    (s ++ c :: t).dropWhile p = c :: t := by
  rw [List.dropWhile_append_of_pos h, List.dropWhile_cons_of_neg (Bool.eq_false_iff.mp hc)]

/-! ## The runs of a text -/

/-- The maximal runs of the characters of a text that satisfy `p`, in order: the pieces between the
other characters, without the empty ones. -/
def runs (p : Char → Bool) (s : List Char) : List (List Char) :=
  (s.splitOnP fun c => !p c).filter fun w => !w.isEmpty

@[simp] theorem runs_nil (p : Char → Bool) : runs p [] = [] := rfl

theorem runs_cons_of_neg (hc : p c = false) (s : List Char) : runs p (c :: s) = runs p s := by
  simp [runs, List.splitOnP_cons_eq_if_modifyHead, hc]

/-- The first piece of a text is what stands before the first character that does not satisfy `p`;
the runs behind it are the other pieces, where they are not empty. -/
theorem splitOnP_eq_takeWhile (p : Char → Bool) (s : List Char) :
    ∃ ws, (s.splitOnP fun c => !p c) = s.takeWhile p :: ws ∧
      runs p (s.dropWhile p) = ws.filter fun w => !w.isEmpty := by
  induction s with
  | nil => exact ⟨[], rfl, rfl⟩
  | cons c s ih =>
    obtain ⟨ws, hPieces, hRuns⟩ := ih
    rw [List.splitOnP_cons_eq_if_modifyHead, hPieces]
    cases hc : p c with
    | true => exact ⟨ws, by simp [hc], by rwa [List.dropWhile_cons_of_pos hc]⟩
    | false =>
      refine ⟨s.takeWhile p :: ws, by simp [hc], ?_⟩
      rw [List.dropWhile_cons_of_neg (Bool.eq_false_iff.mp hc), runs_cons_of_neg hc, runs, hPieces]

theorem runs_eq_closeWord (p : Char → Bool) (s : List Char) :
    runs p s = closeWord (s.takeWhile p) (runs p (s.dropWhile p)) := by
  obtain ⟨ws, hPieces, hRuns⟩ := splitOnP_eq_takeWhile p s
  rw [hRuns, runs, hPieces, List.filter_cons, closeWord]
  cases (s.takeWhile p).isEmpty <;> rfl

theorem runs_cons_of_pos (hc : p c = true) (s : List Char) :
    runs p (c :: s) = (c :: s.takeWhile p) :: runs p (s.dropWhile p) := by
  rw [runs_eq_closeWord, List.takeWhile_cons_of_pos hc, List.dropWhile_cons_of_pos hc]
  rfl

/-- What can be a run: some characters, all of which satisfy `p`. -/
def IsRun (p : Char → Bool) (w : List Char) : Prop := w ≠ [] ∧ ∀ c ∈ w, p c = true

theorem isRun_of_mem_runs (h : w ∈ runs p s) : IsRun p w := by
  obtain ⟨hPiece, hSome⟩ := List.mem_filter.mp h
  exact ⟨by simpa using hSome, fun c hc => by simpa using not_of_mem_splitOnP hPiece c hc⟩

/-- The words of a text are its runs of characters that are not blank. -/
theorem words_eq_runs (s : List Char) : words s = runs (fun c => !isBlank c) s := by
  let p (c : Char) : Bool := !isBlank c
  let step := fun c ((w, ws) : List Char × List (List Char)) =>
    if isBlank c then ([], closeWord w ws) else (c :: w, ws)
  -- what has been read from the end on: the run that has begun, and those behind it
  have hRead : s.foldr step ([], []) = (s.takeWhile p, runs p (s.dropWhile p)) := by
    induction s with
    | nil => rfl
    | cons c s ih =>
      rw [List.foldr_cons, ih]
      by_cases hc : isBlank c = true
      · have hNot : p c = false := by simp [p, hc]
        rw [List.takeWhile_cons_of_neg (Bool.eq_false_iff.mp hNot),
          List.dropWhile_cons_of_neg (Bool.eq_false_iff.mp hNot), runs_cons_of_neg hNot,
          runs_eq_closeWord p s]
        exact if_pos hc
      · have hNot : p c = true := by simp [p, hc]
        rw [List.takeWhile_cons_of_pos hNot, List.dropWhile_cons_of_pos hNot]
        exact if_neg hc
  rw [runs_eq_closeWord]
  show closeWord (s.foldr step ([], [])).1 (s.foldr step ([], [])).2 = _
  rw [hRead]

/-! ## Runs with separators between them -/

theorem intercalate_cons (sep w : List Char) (ws : List (List Char)) :
    sep.intercalate (w :: ws) = w ++ ws.flatMap (sep ++ ·) := by
  induction ws generalizing w with
  | nil => simp
  | cons v ws ih => rw [List.intercalate_cons_cons, ih, List.flatMap_cons, List.append_assoc,
      List.append_assoc]

/-- Where joined parts meet others, the last of the ones and the first of the others are one part. -/
theorem intercalate_append (sep w v : List Char) (ws vs : List (List Char)) :
    sep.intercalate (ws ++ (w ++ v) :: vs) =
      sep.intercalate (ws ++ [w]) ++ sep.intercalate (v :: vs) := by
  cases ws with
  | nil => simp [intercalate_cons]
  | cons u ws => simp [intercalate_cons]

/-- A text in which the characters that do not satisfy `p` stand one by one, each between two that
do. -/
structure IsSpaced (p : Char → Bool) (s : List Char) : Prop where
  head : ∀ c ∈ s.head?, p c = true
  last : ∀ c ∈ s.getLast?, p c = true
  apart : s.IsChain fun a b => p a = true ∨ p b = true

theorem IsRun.isSpaced (h : IsRun p w) : IsSpaced p w where
  head c hc := h.2 c (List.mem_of_head? hc)
  last c hc := h.2 c (List.mem_of_getLast? hc)
  apart := List.isChain_iff_forall_rel_of_append_cons_cons.mpr fun a _ before _ hText =>
    .inl (h.2 a (hText ▸ List.mem_append_right before List.mem_cons_self))

/-- One separator is put between a run and what comes after it. -/
theorem IsSpaced.after (hw : IsRun p w) (ht : IsSpaced p t) (hSome : t ≠ []) (sep : Char) :
    IsSpaced p (w ++ sep :: t) where
  head c hc := by
    obtain ⟨d, r, rfl⟩ := List.exists_cons_of_ne_nil hw.1
    exact hw.2 c (List.mem_of_head? hc)
  last c hc := by
    obtain ⟨d, r, rfl⟩ := List.exists_cons_of_ne_nil hSome
    rw [List.getLast?_append_cons, List.getLast?_cons_cons] at hc
    exact ht.last c hc
  apart := by
    refine List.isChain_append.mpr ⟨hw.isSpaced.apart, ?_, fun a ha b hb => ?_⟩
    · exact List.isChain_cons.mpr ⟨fun b hb => .inr (ht.head b hb), ht.apart⟩
    · exact .inl (hw.isSpaced.last a ha)

/-- In runs that are joined, the separators stand one by one. -/
theorem isSpaced_intercalate (h : ∀ w ∈ ws, IsRun p w) (sep : Char) :
    IsSpaced p ([sep].intercalate ws) := by
  induction ws with
  | nil => exact ⟨by simp, by simp, .nil⟩
  | cons w ws ih =>
    obtain ⟨hw, hws⟩ := List.forall_mem_cons.mp h
    cases ws with
    | nil =>
      rw [List.intercalate_singleton]
      exact hw.isSpaced
    | cons v ws =>
      have hSome : [sep].intercalate (v :: ws) ≠ [] := by
        rw [intercalate_cons]
        exact List.append_ne_nil_of_left_ne_nil (h v (by simp)).1 _
      rw [List.intercalate_cons_cons, List.append_assoc, List.singleton_append]
      exact (ih hws).after hw hSome sep

/-- A text that is written word by word has single blanks, each between two words. -/
theorem isSpaced_collapse (s : List Char) : IsSpaced (fun c => !isBlank c) (collapse s) := by
  rw [collapse, words_eq_runs]
  exact isSpaced_intercalate (fun _ hw => isRun_of_mem_runs hw) ' '

/-- Two characters next to each other are not both separators. -/
theorem IsSpaced.not_infix (h : IsSpaced p s) {a b : Char} (ha : p a = false) (hb : p b = false) :
    ¬ [a, b] <:+: s := by
  intro hIn
  have hPair := List.IsChain.infix h.apart hIn
  rcases List.isChain_pair.mp hPair with hp | hp
  · rw [ha] at hp
    cases hp
  · rw [hb] at hp
    cases hp

/-- Up to a character that does not satisfy `p`, a run is the first one of a text. -/
theorem runs_append (hw : IsRun p w) (hSep : p sep = false) (t : List Char) :
    runs p (w ++ sep :: t) = w :: runs p t := by
  have hNone : ∀ c ∈ w, (!p c) = false := fun c hc => by rw [hw.2 c hc, Bool.not_true]
  rw [runs, List.splitOnP_append_cons w t (by rw [hSep, Bool.not_false]),
    List.splitOnP_eq_singleton hNone, List.singleton_append, List.filter_cons_of_pos (by simp [hw.1])]
  rfl

theorem runs_of_isRun (hw : IsRun p w) : runs p w = [w] := by
  have hNone : ∀ c ∈ w, (!p c) = false := fun c hc => by rw [hw.2 c hc, Bool.not_true]
  rw [runs, List.splitOnP_eq_singleton hNone, List.filter_cons_of_pos (by simp [hw.1]),
    List.filter_nil]

/-- Runs that are joined by a separator are the runs of the text that this gives. -/
theorem runs_intercalate (h : ∀ w ∈ ws, IsRun p w) (hSep : p sep = false) :
    runs p ([sep].intercalate ws) = ws := by
  induction ws with
  | nil => rfl
  | cons w ws ih =>
    obtain ⟨hw, hws⟩ := List.forall_mem_cons.mp h
    cases ws with
    | nil => rw [List.intercalate_singleton, runs_of_isRun hw]
    | cons v ws =>
      rw [List.intercalate_cons_cons, List.append_assoc, List.singleton_append,
        runs_append hw hSep, ih hws]

end Coursebook.Text
