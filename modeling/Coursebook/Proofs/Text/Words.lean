import Coursebook.Text.Blank
import Mathlib.Data.List.Basic
import Mathlib.Data.List.DropRight

/-!
# Coursebook — words

What the words of a text consist of, and what stands in a text that is written word by word.

* `flatten_words`, `mem_of_mem_words` — the words hold characters of the text that are not blank.
* `count_collapse` — what is no blank stands as often in a text that is written word by word.
* `newline_not_mem_collapse` — a text that is written word by word is one line.
* `stripWhile_eq_self`, `mem_stripWhile` — what stripping a text keeps.
-/

namespace Coursebook.Text

variable {p : Char → Bool} {c : Char} {s w : List Char}

/-- The words of a text are its characters without the blanks. -/
theorem flatten_words (s : List Char) : (words s).flatten = s.filter fun c => !isBlank c := by
  have hClose (w : List Char) (ws : List (List Char)) :
      (closeWord w ws).flatten = w ++ ws.flatten := by
    cases w <;> rfl
  let step := fun c ((w, ws) : List Char × List (List Char)) =>
    if isBlank c then ([], closeWord w ws) else (c :: w, ws)
  have hRead (s : List Char) : (s.foldr step ([], [])).1 ++ (s.foldr step ([], [])).2.flatten =
      s.filter fun c => !isBlank c := by
    induction s with
    | nil => rfl
    | cons a r ih =>
      rw [List.foldr_cons, List.filter_cons, ← ih]
      generalize r.foldr step ([], []) = read
      by_cases ha : isBlank a = true
      · simp [step, ha, hClose]
      · simp [step, ha]
  show (closeWord (s.foldr step ([], [])).1 (s.foldr step ([], [])).2).flatten = _
  rw [hClose, hRead]

theorem mem_of_mem_words (hw : w ∈ words s) (hc : c ∈ w) : c ∈ s ∧ isBlank c = false := by
  have hIn : c ∈ (words s).flatten := List.mem_flatten.mpr ⟨w, hw, hc⟩
  rw [flatten_words, List.mem_filter] at hIn
  exact ⟨hIn.1, by simpa using hIn.2⟩

theorem dropEndWhile_cons_of_neg (hc : p c = false) (s : List Char) :
    dropEndWhile p (c :: s) = c :: dropEndWhile p s := by
  simp [dropEndWhile, hc]

/-- What is dropped at the end is kept before something that is. -/
theorem dropEndWhile_cons_of_pos (hc : p c = true) (s : List Char) :
    dropEndWhile p (c :: s) = if dropEndWhile p s = [] then [] else c :: dropEndWhile p s := by
  simp [dropEndWhile, hc]

theorem dropEndWhile_eq_rdropWhile (p : Char → Bool) (s : List Char) :
    dropEndWhile p s = s.rdropWhile p := by
  -- before something that is kept, all is kept
  have hKept {a : List Char} (ha : a ≠ []) (s : List Char) :
      s.foldr (fun c r => if r.isEmpty && p c then [] else c :: r) a = s ++ a := by
    induction s with
    | nil => rfl
    | cons c s ih =>
      have hSome : (s ++ a).isEmpty = false := by simp [ha]
      rw [List.foldr_cons, ih, hSome, Bool.false_and, if_neg Bool.false_ne_true, List.cons_append]
  induction s using List.reverseRecOn with
  | nil => rfl
  | append_singleton s c ih =>
    rw [List.rdropWhile_concat, ← ih, dropEndWhile, List.foldr_append]
    by_cases hc : p c = true
    · simp [hc, dropEndWhile]
    · simpa [hc] using hKept (List.cons_ne_nil c []) s

theorem mem_of_mem_stripWhile (h : c ∈ stripWhile p s) : c ∈ s := by
  rw [stripWhile, dropEndWhile_eq_rdropWhile] at h
  exact (List.dropWhile_suffix p).subset ((List.rdropWhile_prefix p _).subset h)

/-- What is left of a text does not end in what is dropped at its end. -/
theorem not_of_getLast?_dropEndWhile (h : (dropEndWhile p s).getLast? = some c) :
    p c = false := by
  rw [dropEndWhile_eq_rdropWhile] at h
  obtain ⟨hSome, rfl⟩ := List.mem_getLast?_eq_getLast h
  exact Bool.eq_false_iff.mpr (List.rdropWhile_last_not p s hSome)

theorem dropEndWhile_eq_self (hLast : ∀ c ∈ s.getLast?, p c = false) : dropEndWhile p s = s := by
  rw [dropEndWhile_eq_rdropWhile, List.rdropWhile_eq_self_iff]
  intro hSome
  rw [hLast _ (List.getLast?_eq_some_getLast hSome)]
  exact Bool.false_ne_true

theorem stripWhile_eq_self (hHead : ∀ c ∈ s.head?, p c = false)
    (hLast : ∀ c ∈ s.getLast?, p c = false) : stripWhile p s = s := by
  have hDrop : s.dropWhile p = s := by
    cases s with
    | nil => rfl
    | cons c s => rw [List.dropWhile_cons, hHead c rfl, if_neg Bool.false_ne_true]
  rw [stripWhile, hDrop, dropEndWhile_eq_self hLast]

/-- What is dropped at the end may be any number of characters. -/
theorem dropEndWhile_append {t : List Char} (ht : ∀ c ∈ t, p c = true) (s : List Char) :
    dropEndWhile p (s ++ t) = dropEndWhile p s := by
  rw [dropEndWhile_eq_rdropWhile, dropEndWhile_eq_rdropWhile, List.rdropWhile, List.rdropWhile,
    List.reverse_append, List.dropWhile_append_of_pos (by simpa using ht)]

/-- What stands between characters that are dropped is left. -/
theorem stripWhile_append {a b : List Char} (ha : ∀ c ∈ a, p c = true) (hb : ∀ c ∈ b, p c = true)
    (hHead : ∀ c ∈ s.head?, p c = false) (hLast : ∀ c ∈ s.getLast?, p c = false) :
    stripWhile p (a ++ s ++ b) = s := by
  rw [stripWhile, List.append_assoc, List.dropWhile_append_of_pos ha]
  cases s with
  | nil =>
    rw [List.nil_append, List.dropWhile_eq_nil_iff.mpr hb]
    rfl
  | cons c s =>
    rw [List.cons_append, List.dropWhile_cons_of_neg (Bool.eq_false_iff.mp (hHead c rfl)),
      ← List.cons_append, dropEndWhile_append hb, dropEndWhile_eq_self hLast]

/-- What is dropped at the ends of a text stands around what is left of it. -/
theorem exists_append_stripWhile (p : Char → Bool) (s : List Char) :
    ∃ a b, s = a ++ stripWhile p s ++ b ∧ (∀ c ∈ a, p c = true) ∧ ∀ c ∈ b, p c = true := by
  refine ⟨s.takeWhile p, (s.dropWhile p).rtakeWhile p, ?_, fun c hc => List.mem_takeWhile_imp hc,
    fun c hc => List.mem_rtakeWhile_imp hc⟩
  rw [stripWhile, dropEndWhile_eq_rdropWhile, List.append_assoc, List.rdropWhile_append_rtakeWhile,
    List.takeWhile_append_dropWhile]

/-- What is left of a text does not start with what is dropped there. -/
theorem not_of_head?_stripWhile (h : (stripWhile p s).head? = some c) : p c = false := by
  rw [stripWhile, dropEndWhile_eq_rdropWhile] at h
  obtain ⟨rest, hRest⟩ := List.rdropWhile_prefix p (l := s.dropWhile p)
  have hNot := List.head?_dropWhile_not p s
  rwa [← hRest, List.head?_append, h] at hNot

/-- What is not dropped at the ends stays. -/
theorem mem_stripWhile (hc : p c = false) (h : c ∈ s) : c ∈ stripWhile p s := by
  have hKept {s : List Char} (h : c ∈ s) : c ∈ s.dropWhile p := by
    rw [← s.takeWhile_append_dropWhile (p := p), List.mem_append] at h
    rcases h with hTaken | hDropped
    · rw [List.mem_takeWhile_imp hTaken] at hc
      cases hc
    · exact hDropped
  rw [stripWhile, dropEndWhile_eq_rdropWhile, List.rdropWhile, List.mem_reverse]
  exact hKept (List.mem_reverse.mpr (hKept h))

theorem mem_of_mem_intercalate {sep : List Char} {pieces : List (List Char)}
    (h : c ∈ sep.intercalate pieces) : c ∈ sep ∨ ∃ w ∈ pieces, c ∈ w := by
  induction pieces with
  | nil => cases h
  | cons w r ih =>
    cases r with
    | nil =>
      rw [List.intercalate_singleton] at h
      exact .inr ⟨w, List.mem_singleton_self w, h⟩
    | cons w' r =>
      rw [List.intercalate_cons_cons, List.mem_append, List.mem_append] at h
      rcases h with (hFirst | hSep) | hRest
      · exact .inr ⟨w, List.mem_cons_self, hFirst⟩
      · exact .inl hSep
      · exact (ih hRest).imp id fun ⟨v, hv, hc⟩ => ⟨v, List.mem_cons_of_mem w hv, hc⟩

theorem sublist_intercalate {sep : List Char} {pieces : List (List Char)} (h : w ∈ pieces) :
    w.Sublist (sep.intercalate pieces) := by
  induction pieces with
  | nil => cases h
  | cons v r ih =>
    cases r with
    | nil =>
      rw [List.intercalate_singleton, List.mem_singleton.mp h]
    | cons v' r =>
      rw [List.intercalate_cons_cons]
      rcases List.mem_cons.mp h with rfl | h
      · exact (List.sublist_append_left w sep).trans (List.sublist_append_left _ _)
      · exact (ih h).trans (List.sublist_append_right _ _)

theorem mem_of_mem_collapse (h : c ∈ collapse s) : c = ' ' ∨ c ∈ s ∧ isBlank c = false := by
  rcases mem_of_mem_intercalate h with hSep | ⟨w, hw, hc⟩
  · exact .inl (List.mem_singleton.mp hSep)
  · exact .inr (mem_of_mem_words hw hc)

theorem count_intercalate_of_not_mem {sep : List Char} (hc : c ∉ sep) (pieces : List (List Char)) :
    (sep.intercalate pieces).count c = pieces.flatten.count c := by
  induction pieces with
  | nil => rfl
  | cons w r ih =>
    cases r with
    | nil => rw [List.intercalate_singleton, List.flatten_singleton]
    | cons w' r =>
      rw [List.intercalate_cons_cons, List.count_append, List.count_append, ih,
        List.count_eq_zero.mpr hc, Nat.add_zero, ← List.count_append]
      rfl

/-- A character that is no blank stands in a text as often when it is written word by word. -/
theorem count_collapse (hc : isBlank c = false) : (collapse s).count c = s.count c := by
  have hSpace : c ∉ [' '] := by
    rw [List.mem_singleton]
    rintro rfl
    exact absurd hc (by decide)
  rw [collapse, count_intercalate_of_not_mem hSpace, flatten_words, List.count_filter]
  rw [hc]
  rfl

theorem newline_not_mem_collapse (s : List Char) : '\n' ∉ collapse s := by
  intro h
  rcases mem_of_mem_collapse h with h | ⟨-, h⟩
  · exact absurd h (by decide)
  · exact absurd h (by decide)

end Coursebook.Text
