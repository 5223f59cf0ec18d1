import Coursebook.Media.FileName
import Coursebook.Proofs.Text.Percent
import Coursebook.Proofs.Text.Runs

/-!
# Coursebook — media file names as tokens

A media file name is made of tokens, the runs of ASCII letters and digits, dots and hyphens of a text,
with one underscore between neighbours. The three passes of `sanitize` come to that whatever stands
between the tokens: the first two leave one underscore for each stretch of anything else
(`squeezed_cons_of_token`, `squeezed_cons_of_gap`), the last one removes it at the ends.

* `sanitize_eq_intercalate` — what sanitizing gives.
* `sanitize_tokens` — and what follows: where underscores stand, and that a second pass changes nothing.
-/

namespace Coursebook.Media

open Coursebook.Text

variable {c : Char} {s : List Char}

/-- The characters of a token. -/
def isTokenChar (c : Char) : Bool := c.isAlphanum || c = '.' || c = '-'

/-- The tokens of a text. -/
def tokens (s : List Char) : List (List Char) := runs isTokenChar s

/-- Whether a character is an underscore. -/
def isUnderscore (c : Char) : Bool := c = '_'

theorem isSafe_eq (c : Char) : isSafe c = (isTokenChar c || isUnderscore c) := by
  simp only [isSafe, isTokenChar, isUnderscore]
  cases c.isAlphanum <;> cases decide (c = '.') <;> cases decide (c = '-') <;> simp

theorem isUnderscore_of_token (hc : isTokenChar c = true) : isUnderscore c = false := by
  refine Bool.eq_false_iff.mpr fun h => ?_
  rw [of_decide_eq_true h] at hc
  exact absurd hc (by decide)

/-! ## One underscore for each gap -/

/-- After an underscore of a text without repeated ones comes another character. -/
theorem dropWhile_of_squeezeUnderscores {t : List Char} (h : squeezeUnderscores s = '_' :: t) :
    t.dropWhile isUnderscore = t := by
  induction s generalizing t with
  | nil => cases h
  | cons c s ih =>
    rw [squeezeUnderscores] at h
    split at h
    · cases h
      rfl
    · rename_i d r hRest
      split at h
      · rename_i hBoth
        rw [hBoth.2] at hRest
        cases h
        exact ih hRest
      · rename_i hNot
        cases h
        have hd : isUnderscore d = false := by simpa [isUnderscore] using hNot
        exact List.dropWhile_cons_of_neg (Bool.eq_false_iff.mp hd)

/-- An underscore takes up those that come right after it. -/
theorem squeezeUnderscores_underscore (s : List Char) :
    squeezeUnderscores ('_' :: s) = '_' :: (squeezeUnderscores s).dropWhile isUnderscore := by
  rw [squeezeUnderscores]
  cases hRest : squeezeUnderscores s with
  | nil => rfl
  | cons d r =>
    by_cases hd : d = '_'
    · subst hd
      rw [List.dropWhile_cons_of_pos rfl, dropWhile_of_squeezeUnderscores hRest]
      rfl
    · simp [hd, isUnderscore]

theorem squeezeUnderscores_cons (hc : c ≠ '_') (s : List Char) :
    squeezeUnderscores (c :: s) = c :: squeezeUnderscores s := by
  rw [squeezeUnderscores]
  cases squeezeUnderscores s with
  | nil => rfl
  | cons d r => simp [hc]

/-- The text with one underscore for each gap between tokens, and at either end where it has a gap
there. -/
def squeezed (s : List Char) : List Char := squeezeUnderscores (replaceUnsafe false s)

theorem squeezed_cons_of_token (hc : isTokenChar c = true) (s : List Char) :
    squeezed (c :: s) = c :: squeezed s := by
  have hSafe : isSafe c = true := by rw [isSafe_eq, hc, Bool.true_or]
  have hNot : c ≠ '_' := of_decide_eq_false (isUnderscore_of_token hc)
  rw [squeezed, replaceUnsafe, if_pos hSafe, squeezeUnderscores_cons hNot, squeezed]

/-- Whether a stretch that a name may not hold has begun makes no difference behind the underscore that
stands for it. -/
theorem dropWhile_replaceUnsafe (s : List Char) :
    (squeezeUnderscores (replaceUnsafe true s)).dropWhile isUnderscore =
      (squeezed s).dropWhile isUnderscore := by
  induction s with
  | nil => rfl
  | cons c s ih =>
    rw [squeezed, replaceUnsafe, replaceUnsafe]
    by_cases hc : isSafe c = true
    · rw [if_pos hc, if_pos hc]
    · rw [if_neg hc, if_neg hc, if_pos rfl, if_neg Bool.false_ne_true,
        squeezeUnderscores_underscore, List.dropWhile_cons_of_pos rfl, List.dropWhile_idempotent]

theorem squeezed_cons_of_gap (hc : isTokenChar c = false) (s : List Char) :
    squeezed (c :: s) = '_' :: (squeezed s).dropWhile isUnderscore := by
  rw [squeezed, replaceUnsafe]
  by_cases hSafe : isSafe c = true
  · rw [if_pos hSafe]
    rw [isSafe_eq, hc, Bool.false_or] at hSafe
    rw [of_decide_eq_true hSafe, squeezeUnderscores_underscore, squeezed]
  · rw [if_neg hSafe, if_neg Bool.false_ne_true, squeezeUnderscores_underscore,
      dropWhile_replaceUnsafe]

/-! ## Names and tokens -/

/-- Without the underscores at its ends, a text with one underscore for each gap is its tokens with
underscores between them. As to a text that comes after a token: there the gap that it begins with is
kept, and so is what of the token it begins with. -/
theorem strip_squeezed (s : List Char) :
    dropEndWhile isUnderscore ((squeezed s).dropWhile isUnderscore) =
      ['_'].intercalate (tokens s) ∧
    dropEndWhile isUnderscore (squeezed s) =
      s.takeWhile isTokenChar ++ (tokens (s.dropWhile isTokenChar)).flatMap ('_' :: ·) := by
  induction s with
  | nil => exact ⟨rfl, rfl⟩
  | cons c s ih =>
    obtain ⟨ihStart, ihAfter⟩ := ih
    cases hc : isTokenChar c with
    | true =>
      have hNot := isUnderscore_of_token hc
      have hKept : dropEndWhile isUnderscore (squeezed (c :: s)) =
          c :: (s.takeWhile isTokenChar ++
            (tokens (s.dropWhile isTokenChar)).flatMap ('_' :: ·)) := by
        rw [squeezed_cons_of_token hc, dropEndWhile_cons_of_neg hNot, ihAfter]
      constructor
      · rw [tokens, runs_cons_of_pos hc, intercalate_cons, squeezed_cons_of_token hc,
          List.dropWhile_cons_of_neg (Bool.eq_false_iff.mp hNot), ← squeezed_cons_of_token hc, hKept]
        rfl
      · rw [hKept, List.takeWhile_cons_of_pos hc, List.dropWhile_cons_of_pos hc]
        rfl
    | false =>
      have hGap : tokens (c :: s) = tokens s := runs_cons_of_neg hc s
      constructor
      · rw [squeezed_cons_of_gap hc, List.dropWhile_cons_of_pos rfl, List.dropWhile_idempotent,
          ihStart, hGap]
      · rw [squeezed_cons_of_gap hc, dropEndWhile_cons_of_pos rfl, ihStart,
          List.takeWhile_cons_of_neg (Bool.eq_false_iff.mp hc),
          List.dropWhile_cons_of_neg (Bool.eq_false_iff.mp hc), hGap, List.nil_append]
        cases hTokens : tokens s with
        | nil => rfl
        | cons w ws =>
          -- the gap is before a token, so the underscore for it is kept
          have hSome : w ≠ [] := (isRun_of_mem_runs (hTokens ▸ List.mem_cons_self : w ∈ tokens s)).1
          rw [intercalate_cons, if_neg (List.append_ne_nil_of_left_ne_nil hSome _)]
          rfl

/-- A name is the tokens of the text with one underscore between neighbours. -/
theorem sanitize_eq_intercalate (s : List Char) : sanitize s = ['_'].intercalate (tokens s) :=
  (strip_squeezed s).1

/-- A name has safe characters only: those of the tokens and the underscores. -/
theorem isSafe_of_mem_sanitize (h : c ∈ sanitize s) : isSafe c = true := by
  rw [sanitize_eq_intercalate] at h
  rw [isSafe_eq]
  rcases mem_of_mem_intercalate h with hSep | ⟨w, hw, hc⟩
  · rw [List.mem_singleton.mp hSep]
    rfl
  · rw [(isRun_of_mem_runs hw).2 c hc, Bool.true_or]

theorem isSafe_of_mem_mediaName (h : c ∈ mediaName s) : isSafe c = true :=
  isSafe_of_mem_sanitize h

theorem tokens_sanitize (s : List Char) : tokens (sanitize s) = tokens s := by
  rw [sanitize_eq_intercalate]
  exact runs_intercalate (fun w => isRun_of_mem_runs) (by decide)

theorem isSpaced_sanitize (s : List Char) : IsSpaced isTokenChar (sanitize s) := by
  rw [sanitize_eq_intercalate]
  exact isSpaced_intercalate (fun w => isRun_of_mem_runs) '_'

theorem sanitize_sanitize (s : List Char) : sanitize (sanitize s) = sanitize s := by
  rw [sanitize_eq_intercalate (sanitize s), tokens_sanitize, ← sanitize_eq_intercalate]

/-- In a text of safe characters there is nothing to decode and nothing to cut off. -/
theorem mediaName_of_safe (h : ∀ c ∈ s, isSafe c = true) : mediaName s = sanitize s := by
  have hEscape : ¬ HasEscape s := by
    rintro ⟨a, b, -, -, hIn⟩
    have hPercent := h '%' (hIn.subset List.mem_cons_self)
    exact absurd hPercent (by decide)
  have hQuery : dropQuery s = s := by
    refine List.takeWhile_eq_self_iff.mpr fun c hc => ?_
    have hSafe := h c hc
    have hMark : c ≠ '?' ∧ c ≠ '#' := by
      constructor <;> rintro rfl <;> exact absurd hSafe (by decide)
    simp [hMark.1, hMark.2]
  rw [mediaName, percentDecode_of_no_escape hEscape, hQuery]

theorem mediaName_mediaName (s : List Char) : mediaName (mediaName s) = mediaName s := by
  rw [mediaName_of_safe fun c => isSafe_of_mem_mediaName, mediaName, sanitize_sanitize]

/--
**Sanitizing is tokenizing.** A media file name is the tokens of a text, that is its maximal runs of
ASCII letters and digits, dots and hyphens, with single underscores between them. So it consists of
safe characters, has no underscore at an end and no two of them next to each other, and stays as it is
when it is sanitized again; and a name that has been made for the path in a link is its own name there.
-/
theorem sanitize_tokens (s : List Char) :
    sanitize s = ['_'].intercalate (tokens s) ∧
    (∀ c ∈ sanitize s, isSafe c = true) ∧ ¬ ['_', '_'] <:+: sanitize s ∧
    (sanitize s).head? ≠ some '_' ∧ (sanitize s).getLast? ≠ some '_' ∧
    sanitize (sanitize s) = sanitize s ∧ mediaName (mediaName s) = mediaName s := by
  have hSpaced := isSpaced_sanitize s
  have hUnderscore : isTokenChar '_' = false := by decide
  refine ⟨sanitize_eq_intercalate s, fun c => isSafe_of_mem_sanitize,
    hSpaced.not_infix hUnderscore hUnderscore, fun h => ?_, fun h => ?_, sanitize_sanitize s,
    mediaName_mediaName s⟩
  · exact absurd (hSpaced.head '_' h) (by decide)
  · exact absurd (hSpaced.last '_' h) (by decide)

/-- Gaps of every kind: an underscore and characters that a name may not hold, in either order and at
both ends, and an escape, which is two characters of a name unless it has been decoded. -/
theorem gaps_of_every_kind :
    let s := "_ a_ b%20é..c _".toList
    'b' ∈ sanitize s ∧ isSafe 'b' = true ∧ sanitize s = "a_b_20_..c".toList ∧
      mediaName s = "a_b_..c".toList := by
  intro s
  have hMem : 'b' ∈ sanitize s := by decide
  exact ⟨hMem, (sanitize_tokens s).2.1 'b' hMem, by decide, by decide⟩

end Coursebook.Media
