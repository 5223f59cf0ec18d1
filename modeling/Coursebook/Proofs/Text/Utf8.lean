import Coursebook.Text.Utf8

/-!
# Coursebook — UTF-8 read back

The octets that a text is written with are read as that text. The octets of one character are cut off
in front of whatever follows them, by their number (`utf8Pieces_two` and so on) and so in all cases
(`utf8Pieces_octets`), and the rest is an induction on the text.

* `utf8DecodeLossy_octets` — written and read.
* `utf8DecodeLossy_ascii` — octets below 128, one for each character.
-/

namespace Coursebook.Text

variable {r : List UInt8}

/-- The last octet of a character. -/
theorem utf8Pieces_last {p : Utf8Pending} {b : UInt8} (hOwed : p.owed = 0)
    (hLow : p.low ≤ b.toNat) (hHigh : b.toNat ≤ p.high) :
    utf8Pieces (some p) (b :: r) =
      .char (Char.ofNat (64 * p.value + (b.toNat - 0x80))) :: utf8Pieces none r := by
  rw [utf8Pieces, if_pos ⟨hLow, hHigh⟩, hOwed]

/-- An octet of a character that is not its last. -/
theorem utf8Pieces_inner {p : Utf8Pending} {b : UInt8} {owed : Nat} (hOwed : p.owed = owed + 1)
    (hLow : p.low ≤ b.toNat) (hHigh : b.toNat ≤ p.high) :
    utf8Pieces (some p) (b :: r) =
      utf8Pieces (some ⟨b :: p.seen, 64 * p.value + (b.toNat - 0x80), owed, 0x80, 0xbf⟩) r := by
  rw [utf8Pieces, if_pos ⟨hLow, hHigh⟩, hOwed]

/-- The first octet of a character that has more. -/
theorem utf8Pieces_first {p : Utf8Pending} {b : UInt8} (hStart : utf8Start? b = some p)
    (hLong : 0x80 ≤ b.toNat) : utf8Pieces none (b :: r) = utf8Pieces (some p) r := by
  have hAscii : ¬ b < 0x80 := by
    rw [UInt8.lt_iff_toNat_lt]
    exact Nat.not_lt.mpr hLong
  rw [utf8Pieces, utf8Pieces.start, if_neg hAscii, hStart]

theorem utf8Pieces_ascii {b : UInt8} (h : b.toNat < 0x80) :
    utf8Pieces none (b :: r) = .char (Char.ofNat b.toNat) :: utf8Pieces none r := by
  have hAscii : b < 0x80 := by
    rw [UInt8.lt_iff_toNat_lt]
    exact h
  rw [utf8Pieces, utf8Pieces.start, if_pos hAscii]

section

variable {a b c e : Nat}

/-- A character of two octets. -/
theorem utf8Pieces_two (ha : 0xc2 ≤ a ∧ a ≤ 0xdf) (hb : 0x80 ≤ b ∧ b ≤ 0xbf) :
    utf8Pieces none (.ofNat a :: .ofNat b :: r) =
      .char (Char.ofNat (64 * (a - 0xc0) + (b - 0x80))) :: utf8Pieces none r := by
  have hA : (UInt8.ofNat a).toNat = a :=
    UInt8.toNat_ofNat_of_lt (show a < 256 by omega)
  have hB : (UInt8.ofNat b).toNat = b :=
    UInt8.toNat_ofNat_of_lt (show b < 256 by omega)
  have hStart : utf8Start? (.ofNat a) = some ⟨[.ofNat a], a - 0xc0, 0, 0x80, 0xbf⟩ := by
    rw [utf8Start?, hA, if_pos ha]
  rw [utf8Pieces_first hStart (by omega),
    utf8Pieces_last rfl (le_of_le_of_eq hb.1 hB.symm) (le_of_eq_of_le hB hb.2), hB]

/-- A character of three octets. The second one is bounded so that neither long forms nor surrogates
come up. -/
theorem utf8Pieces_three (ha : 0xe0 ≤ a ∧ a ≤ 0xef)
    (hb : (if a = 0xe0 then 0xa0 else 0x80) ≤ b ∧ b ≤ if a = 0xed then 0x9f else 0xbf)
    (hc : 0x80 ≤ c ∧ c ≤ 0xbf) :
    utf8Pieces none (.ofNat a :: .ofNat b :: .ofNat c :: r) =
      .char (Char.ofNat (64 * (64 * (a - 0xe0) + (b - 0x80)) + (c - 0x80))) ::
        utf8Pieces none r := by
  have hLess : b < 256 := Nat.lt_of_le_of_lt hb.2 (by split <;> decide)
  have hA : (UInt8.ofNat a).toNat = a :=
    UInt8.toNat_ofNat_of_lt (show a < 256 by omega)
  have hB : (UInt8.ofNat b).toNat = b := UInt8.toNat_ofNat_of_lt hLess
  have hC : (UInt8.ofNat c).toNat = c :=
    UInt8.toNat_ofNat_of_lt (show c < 256 by omega)
  have hStart : utf8Start? (.ofNat a) = some ⟨[.ofNat a], a - 0xe0, 1,
      if a = 0xe0 then 0xa0 else 0x80, if a = 0xed then 0x9f else 0xbf⟩ := by
    rw [utf8Start?, hA, if_neg (by omega), if_pos ha]
  rw [utf8Pieces_first hStart (by omega),
    utf8Pieces_inner rfl (le_of_le_of_eq hb.1 hB.symm) (le_of_eq_of_le hB hb.2),
    utf8Pieces_last rfl (le_of_le_of_eq hc.1 hC.symm) (le_of_eq_of_le hC hc.2), hB, hC]

/-- A character of four octets. The second one is bounded so that there are no long forms and nothing
past the last code point. -/
theorem utf8Pieces_four (ha : 0xf0 ≤ a ∧ a ≤ 0xf4)
    (hb : (if a = 0xf0 then 0x90 else 0x80) ≤ b ∧ b ≤ if a = 0xf4 then 0x8f else 0xbf)
    (hc : 0x80 ≤ c ∧ c ≤ 0xbf) (he : 0x80 ≤ e ∧ e ≤ 0xbf) :
    utf8Pieces none (.ofNat a :: .ofNat b :: .ofNat c :: .ofNat e :: r) =
      .char (Char.ofNat (64 * (64 * (64 * (a - 0xf0) + (b - 0x80)) + (c - 0x80)) + (e - 0x80))) ::
        utf8Pieces none r := by
  have hLess : b < 256 := Nat.lt_of_le_of_lt hb.2 (by split <;> decide)
  have hA : (UInt8.ofNat a).toNat = a :=
    UInt8.toNat_ofNat_of_lt (show a < 256 by omega)
  have hB : (UInt8.ofNat b).toNat = b := UInt8.toNat_ofNat_of_lt hLess
  have hC : (UInt8.ofNat c).toNat = c :=
    UInt8.toNat_ofNat_of_lt (show c < 256 by omega)
  have hE : (UInt8.ofNat e).toNat = e :=
    UInt8.toNat_ofNat_of_lt (show e < 256 by omega)
  have hStart : utf8Start? (.ofNat a) = some ⟨[.ofNat a], a - 0xf0, 2,
      if a = 0xf0 then 0x90 else 0x80, if a = 0xf4 then 0x8f else 0xbf⟩ := by
    rw [utf8Start?, hA, if_neg (by omega), if_neg (by omega), if_pos ha]
  rw [utf8Pieces_first hStart (by omega),
    utf8Pieces_inner rfl (le_of_le_of_eq hb.1 hB.symm) (le_of_eq_of_le hB hb.2),
    utf8Pieces_inner rfl (le_of_le_of_eq hc.1 hC.symm) (le_of_eq_of_le hC hc.2),
    utf8Pieces_last rfl (le_of_le_of_eq he.1 hE.symm) (le_of_eq_of_le hE he.2), hB, hC, hE]

end

/-- The octets of a character are read as that character, whatever follows. -/
theorem utf8Pieces_octets (c : Char) (r : List UInt8) :
    utf8Pieces none (utf8Octets c ++ r) = .char c :: utf8Pieces none r := by
  have hValid : c.toNat < 0xd800 ∨ 0xdfff < c.toNat ∧ c.toNat < 0x110000 := c.valid
  have hBack : Char.ofNat c.toNat = c := Char.ofNat_toNat c
  unfold utf8Octets String.utf8EncodeChar
  extract_lets v
  have hv : v = c.toNat := rfl
  rw [← hv] at hValid hBack
  clear_value v
  -- a character has one to four octets, and its bits are cut up among them
  split
  · have hOctet : (UInt8.ofNat v).toNat = v :=
      UInt8.toNat_ofNat_of_lt (show v < 256 by omega)
    rw [List.singleton_append, utf8Pieces_ascii (by omega), hOctet, hBack]
  · split
    · have hValue : 64 * (v / 64 % 32 + 192 - 0xc0) + (v % 64 + 128 - 0x80) = v := by omega
      rw [List.cons_append, List.singleton_append, utf8Pieces_two (by omega) (by omega), hValue,
        hBack]
    · split
      · have hValue : 64 * (64 * (v / 4096 % 16 + 224 - 0xe0) + (v / 64 % 64 + 128 - 0x80)) +
            (v % 64 + 128 - 0x80) = v := by omega
        have hSecond : (if v / 4096 % 16 + 224 = 0xe0 then 0xa0 else 0x80) ≤ v / 64 % 64 + 128 ∧
            v / 64 % 64 + 128 ≤ if v / 4096 % 16 + 224 = 0xed then 0x9f else 0xbf := by
          constructor <;> split <;> omega
        rw [List.cons_append, List.cons_append, List.singleton_append,
          utf8Pieces_three (by omega) hSecond (by omega), hValue, hBack]
      · have hValue : 64 * (64 * (64 * (v / 262144 % 8 + 240 - 0xf0) +
            (v / 4096 % 64 + 128 - 0x80)) + (v / 64 % 64 + 128 - 0x80)) +
            (v % 64 + 128 - 0x80) = v := by omega
        have hSecond : (if v / 262144 % 8 + 240 = 0xf0 then 0x90 else 0x80) ≤ v / 4096 % 64 + 128 ∧
            v / 4096 % 64 + 128 ≤ if v / 262144 % 8 + 240 = 0xf4 then 0x8f else 0xbf := by
          constructor <;> split <;> omega
        rw [List.cons_append, List.cons_append, List.cons_append, List.singleton_append,
          utf8Pieces_four (by omega) hSecond (by omega) (by omega), hValue, hBack]

/-- A text written in UTF-8 and read is the text. -/
theorem utf8DecodeLossy_octets (s : List Char) : utf8DecodeLossy (s.flatMap utf8Octets) = s := by
  induction s with
  | nil => rfl
  | cons c s ih =>
    rw [utf8DecodeLossy, List.flatMap_cons, utf8Pieces_octets, List.map_cons]
    exact congrArg (c :: ·) ih

/-- The octet of an ASCII character is that of its code. -/
theorem utf8Octets_ascii {c : Char} (h : c.toNat < 0x80) : utf8Octets c = [UInt8.ofNat c.toNat] := by
  have hCode : c.val.toNat ≤ 127 := Nat.le_of_lt_succ h
  rw [utf8Octets, String.utf8EncodeChar]
  exact if_pos hCode

theorem flatMap_octets_ascii {s : List Char} (h : ∀ c ∈ s, c.toNat < 0x80) :
    s.flatMap utf8Octets = s.map fun c => UInt8.ofNat c.toNat := by
  induction s with
  | nil => rfl
  | cons c s ih =>
    rw [List.flatMap_cons, utf8Octets_ascii (h c List.mem_cons_self),
      ih fun c' hc => h c' (List.mem_cons_of_mem c hc), List.map_cons, List.singleton_append]

theorem utf8DecodeLossy_ascii {s : List Char} (h : ∀ c ∈ s, c.toNat < 0x80) :
    utf8DecodeLossy (s.map fun c => UInt8.ofNat c.toNat) = s := by
  rw [← flatMap_octets_ascii h, utf8DecodeLossy_octets]

end Coursebook.Text
