import Mathlib
import Coursebook.Text.Percent
import Coursebook.Proofs.Text.Utf8

/-!
# Coursebook — percent escapes read back

A reference to a file is written in a page as a URL, and the path of the file is percent-encoded for
that: what may not stand in the path of a URL becomes an escape for each of its octets. Decoding
gives the path back. A text that is decoded without having been encoded stays as it is if no escape
stands in it, and need not otherwise.

* `percentDecode_percentEncode` — encoded and decoded.
* `percentDecode_of_no_escape` — decoded only.
-/

namespace Coursebook.Text

/-! ## Encoding -/

/-- The characters that stand for themselves in the path of a URL: ASCII letters and digits, the
marks `-`, `.`, `_`, `~`, and the slash. -/
def isUrlPathChar (c : Char) : Bool := c.isAlphanum || "-._~/".toList.contains c

/-- The upper-case hexadecimal digit of a number below 16. -/
def upperHexDigit (n : Nat) : Char :=
  if n < 10 then Char.ofNat ('0'.toNat + n) else Char.ofNat ('A'.toNat + (n - 10))

/-- The escape for an octet. -/
def percentEscape (b : UInt8) : List Char :=
  ['%', upperHexDigit (b.toNat / 16), upperHexDigit (b.toNat % 16)]

/-- A path as it is written in a URL. -/
def percentEncode (s : List Char) : List Char :=
  s.flatMap fun c => if isUrlPathChar c then [c] else (utf8Octets c).flatMap percentEscape

/-! ## Decoding what has been encoded -/

theorem hexDigit?_upperHexDigit : ∀ n < 16, hexDigit? (upperHexDigit n) = some n := by decide

theorem upperHexDigit_ascii : ∀ n < 16, (upperHexDigit n).toNat < 0x80 := by decide

/-- A character that stands for itself is ASCII and starts no escape. -/
theorem isUrlPathChar_plain {c : Char} (h : isUrlPathChar c = true) : c.toNat < 0x80 ∧ c ≠ '%' := by
  constructor
  · simp only [isUrlPathChar, Char.isAlphanum, Char.isAlpha, Char.isUpper, Char.isLower,
      Char.isDigit, Bool.or_eq_true, Bool.and_eq_true, decide_eq_true_eq, UInt32.le_iff_toNat_le,
      List.contains_eq_mem] at h
    rcases h with ((⟨_, h⟩ | ⟨_, h⟩) | ⟨_, h⟩) | h
    · exact Nat.lt_of_le_of_lt h (by decide)
    · exact Nat.lt_of_le_of_lt h (by decide)
    · exact Nat.lt_of_le_of_lt h (by decide)
    · have hAll : "-._~/".toList.all (fun c => decide (c.toNat < 0x80)) = true := by decide
      exact of_decide_eq_true (List.all_eq_true.mp hAll c h)
  · rintro rfl
    revert h
    decide

theorem percentOctets_cons {c : Char} (hc : c ≠ '%') (r : List Char) :
    percentOctets (c :: r) = UInt8.ofNat c.toNat :: percentOctets r := by
  rw [percentOctets]
  intro a b r' hEq
  exact absurd hEq hc

theorem percentOctets_escape (b : UInt8) (r : List Char) :
    percentOctets (percentEscape b ++ r) = b :: percentOctets r := by
  have hb : b.toNat < 256 := b.toNat_lt
  have hHigh := hexDigit?_upperHexDigit (b.toNat / 16) (by omega)
  have hLow := hexDigit?_upperHexDigit (b.toNat % 16) (by omega)
  have hValue : 16 * (b.toNat / 16) + b.toNat % 16 = b.toNat := by omega
  simp only [percentEscape, List.cons_append, List.nil_append]
  rw [percentOctets, hHigh, hLow]
  dsimp only
  rw [hValue, UInt8.ofNat_toNat]

theorem percentOctets_escapes (bs : List UInt8) (r : List Char) :
    percentOctets (bs.flatMap percentEscape ++ r) = bs ++ percentOctets r := by
  induction bs with
  | nil => rfl
  | cons b bs ih =>
    rw [List.flatMap_cons, List.append_assoc, percentOctets_escape, ih]
    rfl

/-- What an encoded path stands for are the octets of the path. -/
theorem percentOctets_percentEncode (s : List Char) :
    percentOctets (percentEncode s) = s.flatMap utf8Octets := by
  induction s with
  | nil => rfl
  | cons c s ih =>
    have hFirst : percentEncode (c :: s) =
        (if isUrlPathChar c then [c] else (utf8Octets c).flatMap percentEscape) ++
          percentEncode s := List.flatMap_cons
    rw [hFirst, List.flatMap_cons, ← ih]
    by_cases hc : isUrlPathChar c = true
    · obtain ⟨hAscii, hPercent⟩ := isUrlPathChar_plain hc
      rw [if_pos hc, List.singleton_append, percentOctets_cons hPercent, utf8Octets_ascii hAscii]
      rfl
    · rw [if_neg hc, percentOctets_escapes]

/-- A character of an encoded path stands for itself or is part of an escape. -/
theorem mem_percentEncode {s : List Char} {c : Char} (h : c ∈ percentEncode s) :
    isUrlPathChar c = true ∨ c = '%' ∨ ∃ n < 16, c = upperHexDigit n := by
  obtain ⟨x, -, hc⟩ := List.mem_flatMap.mp h
  by_cases hx : isUrlPathChar x = true
  · rw [if_pos hx, List.mem_singleton] at hc
    exact .inl (hc ▸ hx)
  · rw [if_neg hx] at hc
    obtain ⟨b, -, hc⟩ := List.mem_flatMap.mp hc
    have hb : b.toNat < 256 := b.toNat_lt
    simp only [percentEscape, List.mem_cons, List.not_mem_nil, or_false] at hc
    rcases hc with hc | hc | hc
    · exact .inr (.inl hc)
    · exact .inr (.inr ⟨_, by omega, hc⟩)
    · exact .inr (.inr ⟨_, by omega, hc⟩)

theorem percentEncode_ascii {s : List Char} {c : Char} (h : c ∈ percentEncode s) :
    c.toNat < 0x80 := by
  rcases mem_percentEncode h with hPlain | rfl | ⟨n, hn, rfl⟩
  · exact (isUrlPathChar_plain hPlain).1
  · decide
  · exact upperHexDigit_ascii n hn

/-- ASCII characters are all read before any of them is decoded. -/
theorem percentDecodeAfter_ascii {s : List Char} (h : ∀ c ∈ s, c.toNat < 0x80) (run : List Char) :
    percentDecodeAfter run s = utf8DecodeLossy (percentOctets (run.reverse ++ s)) := by
  induction s generalizing run with
  | nil => rw [percentDecodeAfter, List.append_nil]
  | cons c s ih =>
    rw [percentDecodeAfter, if_pos (h c List.mem_cons_self),
      ih (fun c' hc => h c' (List.mem_cons_of_mem c hc)), List.reverse_cons, List.append_assoc]
    rfl

/-- A path that has been encoded is decoded to what it was. -/
theorem percentDecode_percentEncode (s : List Char) : percentDecode (percentEncode s) = s := by
  rw [percentDecode, percentDecodeAfter_ascii fun c hc => percentEncode_ascii hc]
  show utf8DecodeLossy (percentOctets (percentEncode s)) = s
  rw [percentOctets_percentEncode, utf8DecodeLossy_octets]

/-! ## Decoding what has not been encoded -/

/-- Whether an escape stands somewhere in a text. -/
def HasEscape (s : List Char) : Prop :=
  ∃ a b, (hexDigit? a).isSome ∧ (hexDigit? b).isSome ∧ ['%', a, b] <:+: s

theorem HasEscape.mono {s t : List Char} (h : HasEscape s) (hInfix : s <:+: t) : HasEscape t := by
  obtain ⟨a, b, ha, hb, hIn⟩ := h
  exact ⟨a, b, ha, hb, hIn.trans hInfix⟩

/-- Without an escape every character stands for itself. -/
theorem percentOctets_of_no_escape {s : List Char} (h : ¬ HasEscape s) :
    percentOctets s = s.map fun c => UInt8.ofNat c.toNat := by
  fun_induction percentOctets s with
  | case1 => rfl
  | case2 a b r x y hy hx =>
    exact absurd ⟨a, b, by rw [hx]; rfl, by rw [hy]; rfl, ⟨[], r, rfl⟩⟩ h
  | case3 a b r hNot ih =>
    have hRest : ¬ HasEscape (a :: b :: r) := fun h' => h (h'.mono (List.suffix_cons _ _).isInfix)
    rw [ih hRest]
    rfl
  | case4 c r hNot ih =>
    have hRest : ¬ HasEscape r := fun h' => h (h'.mono (List.suffix_cons _ _).isInfix)
    rw [ih hRest, List.map_cons]

theorem utf8DecodeLossy_percentOctets {s : List Char} (hAscii : ∀ c ∈ s, c.toNat < 0x80)
    (h : ¬ HasEscape s) : utf8DecodeLossy (percentOctets s) = s := by
  rw [percentOctets_of_no_escape h, utf8DecodeLossy_ascii hAscii]

theorem percentDecodeAfter_of_no_escape {run s : List Char} (hAscii : ∀ c ∈ run, c.toNat < 0x80)
    (h : ¬ HasEscape (run.reverse ++ s)) : percentDecodeAfter run s = run.reverse ++ s := by
  have hRead {run s : List Char} (hAscii : ∀ c ∈ run, c.toNat < 0x80)
      (h : ¬ HasEscape (run.reverse ++ s)) :
      utf8DecodeLossy (percentOctets run.reverse) = run.reverse :=
    utf8DecodeLossy_percentOctets (fun c hc => hAscii c (List.mem_reverse.mp hc))
      fun h' => h (h'.mono (List.prefix_append _ _).isInfix)
  induction s generalizing run with
  | nil => rw [percentDecodeAfter, hRead hAscii h, List.append_nil]
  | cons c s ih =>
    rw [percentDecodeAfter]
    by_cases hc : c.toNat < 0x80
    · have hMore : (c :: run).reverse ++ s = run.reverse ++ c :: s := by
        rw [List.reverse_cons, List.append_assoc, List.singleton_append]
      rw [if_pos hc, ← hMore]
      exact ih (List.forall_mem_cons.mpr ⟨hc, hAscii⟩) (hMore ▸ h)
    · -- the run of ASCII characters ends here, and a new one begins
      have hRest : ¬ HasEscape s := fun h' =>
        h (h'.mono ((List.suffix_cons c s).trans (List.suffix_append _ _)).isInfix)
      rw [if_neg hc, hRead hAscii h, ih (fun c' hc' => absurd hc' List.not_mem_nil) hRest]
      rfl

/-- A text without an escape is decoded to itself. -/
theorem percentDecode_of_no_escape {s : List Char} (h : ¬ HasEscape s) : percentDecode s = s :=
  percentDecodeAfter_of_no_escape (fun _ hc => absurd hc List.not_mem_nil) h

end Coursebook.Text
