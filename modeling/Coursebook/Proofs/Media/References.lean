import Coursebook.Proofs.Media.Link

/-!
# Coursebook — references in a text

A text refers to static files wherever the text of a reference stands in it, whatever is around: the
name of an attribute, `=`, a quote, `/static/`, a path, and a quote. Rewriting replaces the references
that are met first, from left to right, and keeps all else.

That the result has no reference left is an argument on quotes. A reference has two of them, and no
other between them, so what stands before the first and after it decides; rewriting changes neither
side of a quote that it keeps, and of the two that it writes, `./` follows the first, and no `=` comes
before the second.

* `induction_on_references` — a text, read as rewriting reads it.
* `not_hasReference_rewriteLinks` — no reference is left.
* `rewriteLinks_eq_of_scans` — what is replaced, and what is kept.
* `rewriteLinks_complete` — the two together, for any text.
-/

namespace Coursebook.Media

/-- A reference to a static file, as it stands in a text. -/
structure Reference where
  attr : LinkAttribute
  opening : Char
  closing : Char
  /-- The path below the static directory. -/
  path : List Char
  opening_quote : isQuote opening = true
  closing_quote : isQuote closing = true
  nonempty : path ≠ []
  unquoted : ∀ c ∈ path, isQuote c = false

/-- The text of a reference. -/
def Reference.text (r : Reference) : List Char := linkText r.attr r.opening r.closing r.path

/-- What a reference is rewritten to. -/
def Reference.rewritten (mediaDir : List Char) (r : Reference) : List Char :=
  mediaLink r.attr mediaDir (mediaName r.path)

/-- Whether a reference stands somewhere in a text. -/
def HasReference (s : List Char) : Prop := ∃ r : Reference, r.text <:+: s

/-- Whether no reference begins earlier in a text than one with some text before it and some after. -/
def Reference.IsFirst (r : Reference) (before rest : List Char) : Prop :=
  ∀ (x : Reference) (a b : List Char), before ++ (r.text ++ rest) = a ++ (x.text ++ b) →
    before.length ≤ a.length

/-- The references of a text as they are met from left to right, each with the text before it, and the
text after the last one. None overlaps another, and none begins earlier than the one that is met. -/
inductive Scans : List Char → List (List Char × Reference) → List Char → Prop
  | last {s : List Char} (h : ¬ HasReference s) : Scans s [] s
  | next {before rest last : List Char} {r : Reference} {found : List (List Char × Reference)}
      (hFirst : r.IsFirst before rest) (h : Scans rest found last) :
      Scans (before ++ (r.text ++ rest)) ((before, r) :: found) last

/-! ## Reading a text -/

/-- The text of a reference up to its first quote. -/
def LinkAttribute.lead (attr : LinkAttribute) : List Char := attr.name ++ ['=']

theorem LinkAttribute.lead_unquoted (attr : LinkAttribute) :
    ∀ c ∈ attr.lead, isQuote c = false := by
  cases attr <;> simp [lead, LinkAttribute.name, isQuote]

theorem Reference.text_append (r : Reference) (rest : List Char) :
    r.text ++ rest =
      r.attr.lead ++ r.opening :: ((staticRoot ++ r.path) ++ r.closing :: rest) := by
  simp [Reference.text, linkText, LinkAttribute.lead]

theorem staticRoot_unquoted : ∀ c ∈ staticRoot, isQuote c = false := by
  have hNone : staticRoot.any isQuote = false := by decide
  simpa using hNone

theorem Reference.staticPath_unquoted (r : Reference) :
    ∀ c ∈ staticRoot ++ r.path, isQuote c = false :=
  List.forall_mem_append.mpr ⟨staticRoot_unquoted, r.unquoted⟩

/-- The path to a name in the media directory, as it is written in a page. -/
def mediaPathText (mediaDir path : List Char) : List Char :=
  "./".toList ++ mediaDir ++ '/' :: mediaName path

theorem mediaLink_append (mediaDir : List Char) (attr : LinkAttribute) (path rest : List Char) :
    mediaLink attr mediaDir (mediaName path) ++ rest =
      attr.lead ++ '"' :: (mediaPathText mediaDir path ++ '"' :: rest) := by
  have hBetween : "=\"./".toList = '=' :: '"' :: "./".toList := rfl
  rw [mediaLink, mediaPathText, LinkAttribute.lead, hBetween]
  simp only [List.append_assoc, List.cons_append, List.nil_append]

theorem Reference.rewritten_append (mediaDir : List Char) (r : Reference) (rest : List Char) :
    r.rewritten mediaDir ++ rest =
      r.attr.lead ++ '"' :: (mediaPathText mediaDir r.path ++ '"' :: rest) :=
  mediaLink_append mediaDir r.attr r.path rest

/-- What neither of the two quotes is, no quote is. -/
theorem not_isQuote_of {p : Char → Bool} (hDouble : p '"' = false) (hSingle : p '\'' = false)
    {c : Char} (h : p c = true) : isQuote c = false := by
  cases hQuote : isQuote c with
  | false => rfl
  | true =>
    rw [isQuote, Bool.or_eq_true, decide_eq_true_eq, decide_eq_true_eq] at hQuote
    rcases hQuote with rfl | rfl
    · exact absurd h (by simp [hDouble])
    · exact absurd h (by simp [hSingle])

theorem not_isQuote_of_isSafe {c : Char} (h : isSafe c = true) : isQuote c = false :=
  not_isQuote_of (by decide) (by decide) h

theorem mediaPathText_unquoted {mediaDir : List Char} (hMedia : ∀ c ∈ mediaDir, isQuote c = false)
    (path : List Char) : ∀ c ∈ mediaPathText mediaDir path, isQuote c = false := by
  intro c hc
  simp only [mediaPathText, List.mem_append, List.mem_cons] at hc
  rcases hc with (hc | hc) | rfl | hc
  · simp at hc
    rcases hc with rfl | rfl <;> rfl
  · exact hMedia c hc
  · rfl
  · exact not_isQuote_of_isSafe (isSafe_of_mem_mediaName hc)

/-- Texts are the same up to their first quotes, and from there on, if they are the same. -/
theorem split_at_quote {u u' t t' : List Char} {q q' : Char} (hu : ∀ c ∈ u, isQuote c = false)
    (hu' : ∀ c ∈ u', isQuote c = false) (hq : isQuote q = true) (hq' : isQuote q' = true)
    (h : u ++ q :: t = u' ++ q' :: t') : u = u' ∧ q = q' ∧ t = t' := by
  obtain ⟨hTake, hDrop⟩ := span_quote hu hq t
  obtain ⟨hTake', hDrop'⟩ := span_quote hu' hq' t'
  rw [h] at hTake hDrop
  rw [hTake] at hTake'
  rw [hDrop] at hDrop'
  rw [List.cons.injEq] at hDrop'
  exact ⟨hTake', hDrop'⟩

theorem after?_eq_some {lead s r : List Char} (h : after? lead s = some r) : s = lead ++ r := by
  unfold after? at h
  split at h
  · rename_i hLead
    rw [← Option.some.inj h]
    exact (List.prefix_iff_eq_append.mp (List.isPrefixOf_iff_prefix.mp hLead)).symm
  · cases h

theorem exists_reference_of_linkValue? {attr : LinkAttribute} {s : List Char} {l : Link}
    (h : linkValue? attr s = some l) :
    ∃ r : Reference, attr.name ++ s = r.text ++ l.rest := by
  simp only [linkValue?, Option.bind_eq_bind, Option.bind_eq_some_iff] at h
  obtain ⟨value, hValue, h⟩ := h
  split at h
  · rename_i opening value
    simp only [Option.bind_eq_some_iff, Option.guard_eq_some'] at h
    obtain ⟨-, hOpening, below, hBelow, -, hNonempty, h⟩ := h
    split at h
    · rename_i closing rest hClosing
      have hQuote := List.head?_dropWhile_not (fun c => !isQuote c) below
      rw [hClosing, List.head?_cons] at hQuote
      have hUnquoted : ∀ c ∈ below.takeWhile (fun c => !isQuote c), isQuote c = false := by
        intro c hc
        simpa using List.mem_takeWhile_imp hc
      refine ⟨⟨attr, opening, closing, _, hOpening, by simpa using hQuote, by simpa using hNonempty,
        hUnquoted⟩, ?_⟩
      have hPath : below = below.takeWhile (fun c => !isQuote c) ++ closing :: rest := by
        rw [← hClosing, List.takeWhile_append_dropWhile]
      cases h
      rw [Reference.text_append]
      dsimp only
      rw [List.append_assoc staticRoot, ← hPath, ← after?_eq_some hBelow, after?_eq_some hValue]
      simp [LinkAttribute.lead]
    · cases h
  · cases h

/-- A link that is recognised at the start of a text is a reference there. -/
theorem exists_reference_of_link? {s : List Char} {l : Link} (h : link? s = some l) :
    ∃ r : Reference, s = r.text ++ l.rest := by
  unfold link? at h
  split at h
  · rename_i value hSrc
    rw [after?_eq_some hSrc]
    exact exists_reference_of_linkValue? h
  · obtain ⟨value, hHref, h⟩ := Option.bind_eq_some_iff.mp h
    rw [after?_eq_some hHref]
    exact exists_reference_of_linkValue? h

theorem link?_reference (r : Reference) (rest : List Char) :
    link? (r.text ++ rest) = some ⟨r.attr, r.path, rest⟩ :=
  link?_linkText r.nonempty r.unquoted r.opening_quote r.closing_quote r.attr rest

theorem Reference.text_ne_nil (r : Reference) : r.text ≠ [] := by
  simp [Reference.text, linkText]

/-- To tell something of all texts, it is enough to go over references that stand at the start, and
over characters at which none begins. -/
@[elab_as_elim]
theorem induction_on_references {motive : List Char → Prop} (nil : motive [])
    (reference : ∀ (r : Reference) (rest : List Char), motive rest → motive (r.text ++ rest))
    (other : ∀ (c : Char) (s : List Char), (∀ r : Reference, ¬ r.text <+: c :: s) → motive s →
      motive (c :: s))
    (s : List Char) : motive s := by
  -- a reference is taken off at once, so the induction is on the length
  induction hLength : s.length using Nat.strong_induction_on generalizing s with
  | _ n ih =>
    subst hLength
    cases s with
    | nil => exact nil
    | cons c s =>
      by_cases hStart : ∃ r : Reference, r.text <+: c :: s
      · obtain ⟨r, rest, hText⟩ := hStart
        rw [← hText] at ih ⊢
        have hPos := List.length_pos_iff.mpr r.text_ne_nil
        exact reference r rest (ih _ (by simp only [List.length_append]; omega) rest rfl)
      · exact other c s (fun r hr => hStart ⟨r, hr⟩) (ih _ (by simp) s rfl)

/-! ## Rewriting a text -/

theorem rewriteLinks_reference (mediaDir : List Char) (r : Reference) (rest : List Char) :
    rewriteLinks mediaDir (r.text ++ rest) =
      r.rewritten mediaDir ++ rewriteLinks mediaDir rest :=
  linksTo_mediaName mediaDir r.nonempty r.unquoted _ _ _ _ r.opening_quote r.closing_quote

theorem rewriteLinks_cons (mediaDir : List Char) {c : Char} {s : List Char}
    (h : ∀ r : Reference, ¬ r.text <+: c :: s) :
    rewriteLinks mediaDir (c :: s) = c :: rewriteLinks mediaDir s := by
  have hNone : link? (c :: s) = none := by
    cases hLink : link? (c :: s) with
    | none => rfl
    | some l =>
      obtain ⟨r, hr⟩ := exists_reference_of_link? hLink
      exact absurd ⟨l.rest, hr.symm⟩ (h r)
  rw [rewriteLinks, rewriteFrom, hNone]
  rfl

theorem hasReference_cons {c : Char} {s : List Char} :
    HasReference (c :: s) ↔ (∃ r : Reference, r.text <+: c :: s) ∨ HasReference s := by
  simp only [HasReference, List.infix_cons_iff, exists_or]

theorem not_hasReference_nil : ¬ HasReference [] := by
  rintro ⟨r, hr⟩
  exact r.text_ne_nil (List.infix_nil.mp hr)

/-- A reference stands in a text where rewriting recognises one. -/
theorem hasReference_iff {s : List Char} :
    HasReference s ↔ s.tails.any (fun t => (link? t).isSome) = true := by
  induction s with
  | nil => exact iff_of_false not_hasReference_nil (by decide)
  | cons c s ih =>
    have hStart : (∃ r : Reference, r.text <+: c :: s) ↔ (link? (c :: s)).isSome = true := by
      constructor
      · rintro ⟨r, rest, hText⟩
        rw [← hText, link?_reference]
        rfl
      · intro h
        obtain ⟨l, hl⟩ := Option.isSome_iff_exists.mp h
        obtain ⟨r, hr⟩ := exists_reference_of_link? hl
        exact ⟨r, l.rest, hr.symm⟩
    rw [hasReference_cons, List.tails_cons, List.any_cons, Bool.or_eq_true, ← hStart, ih]

instance : DecidablePred HasReference := fun _ => decidable_of_iff _ hasReference_iff.symm

/-- A text without references is kept as it is. -/
theorem rewriteLinks_of_not_hasReference (mediaDir : List Char) {s : List Char}
    (h : ¬ HasReference s) : rewriteLinks mediaDir s = s := by
  induction s with
  | nil => rfl
  | cons c s ih =>
    rw [hasReference_cons, not_or, not_exists] at h
    rw [rewriteLinks_cons mediaDir h.1, ih h.2]

/-! ## No reference is left -/

/-- Rewriting changes nothing before the first quote, and takes no quote away. -/
theorem exists_of_rewriteLinks {mediaDir s : List Char} {u t : List Char} {q : Char}
    (hu : ∀ c ∈ u, isQuote c = false) (hq : isQuote q = true)
    (h : rewriteLinks mediaDir s = u ++ q :: t) : ∃ q' t', isQuote q' = true ∧ s = u ++ q' :: t' := by
  induction s using induction_on_references generalizing u with
  | nil => simp [rewriteLinks, rewriteFrom] at h
  | reference r rest ih =>
    rw [rewriteLinks_reference, r.rewritten_append] at h
    obtain ⟨rfl, -⟩ := split_at_quote r.attr.lead_unquoted hu rfl hq h
    exact ⟨r.opening, _, r.opening_quote, r.text_append rest⟩
  | other c s hStart ih =>
    rw [rewriteLinks_cons mediaDir hStart] at h
    cases u with
    | nil =>
      obtain ⟨rfl, -⟩ := List.cons.inj h
      exact ⟨c, s, hq, rfl⟩
    | cons d u =>
      obtain ⟨rfl, hRest⟩ := List.cons.inj h
      obtain ⟨q', t', hq', rfl⟩ := ih (fun c hc => hu c (List.mem_cons_of_mem _ hc)) hRest
      exact ⟨q', t', hq', rfl⟩

/-- The first quote of a rewritten text is kept, with all behind it still to be rewritten, if what
stands before it does not end in what a reference begins with. -/
theorem exists_of_rewriteLinks_kept {mediaDir s : List Char} {u t : List Char} {q : Char}
    (hu : ∀ c ∈ u, isQuote c = false) (hq : isQuote q = true)
    (hLead : ∀ attr : LinkAttribute, ¬ attr.lead <:+ u)
    (h : rewriteLinks mediaDir s = u ++ q :: t) :
    ∃ t', s = u ++ q :: t' ∧ rewriteLinks mediaDir t' = t := by
  induction s using induction_on_references generalizing u with
  | nil => simp [rewriteLinks, rewriteFrom] at h
  | reference r rest ih =>
    rw [rewriteLinks_reference, r.rewritten_append] at h
    obtain ⟨rfl, -⟩ := split_at_quote r.attr.lead_unquoted hu rfl hq h
    exact absurd List.suffix_rfl (hLead r.attr)
  | other c s hStart ih =>
    rw [rewriteLinks_cons mediaDir hStart] at h
    cases u with
    | nil =>
      obtain ⟨rfl, hRest⟩ := List.cons.inj h
      exact ⟨s, rfl, hRest⟩
    | cons d u =>
      obtain ⟨rfl, hRest⟩ := List.cons.inj h
      obtain ⟨t', rfl, ht'⟩ := ih (fun c hc => hu c (List.mem_cons_of_mem _ hc))
        (fun attr hEnd => hLead attr (hEnd.trans (List.suffix_cons _ _))) hRest
      exact ⟨t', rfl, ht'⟩

/-- What a reference begins with begins with a letter, and no other such text ends in the rest. -/
theorem LinkAttribute.exists_lead_eq (attr : LinkAttribute) :
    ∃ c u, attr.lead = c :: u ∧ ∀ other : LinkAttribute, ¬ other.lead <:+ u := by
  cases attr
  · exact ⟨'s', ['r', 'c', '='], rfl, fun other => by cases other <;> decide⟩
  · exact ⟨'h', ['r', 'e', 'f', '='], rfl, fun other => by cases other <;> decide⟩

/-- At a character that is kept no reference begins also after the rest has been rewritten. -/
theorem not_prefix_of_rewriteLinks (mediaDir : List Char) {c : Char} {s : List Char}
    (h : ∀ r : Reference, ¬ r.text <+: c :: s) (r : Reference) :
    ¬ r.text <+: c :: rewriteLinks mediaDir s := by
  rintro ⟨rest, hText⟩
  obtain ⟨d, u, hLead, hNoLead⟩ := r.attr.exists_lead_eq
  have hUnquoted := r.attr.lead_unquoted
  rw [r.text_append, hLead] at hText
  rw [hLead] at hUnquoted
  obtain ⟨rfl, hRest⟩ := List.cons.inj hText
  -- the first quote is kept, so the path has been there before, up to some quote
  obtain ⟨t, rfl, ht⟩ := exists_of_rewriteLinks_kept
    (fun c hc => hUnquoted c (List.mem_cons_of_mem _ hc)) r.opening_quote hNoLead hRest.symm
  obtain ⟨q, t', hq, rfl⟩ := exists_of_rewriteLinks r.staticPath_unquoted r.closing_quote ht
  have hBefore : ({ r with closing := q, closing_quote := hq } : Reference).text ++ t' =
      d :: (u ++ r.opening :: (staticRoot ++ r.path ++ q :: t')) := by
    rw [Reference.text_append, hLead]
    rfl
  exact h _ ⟨t', hBefore⟩

/-- No reference begins before a quote if none can have this as its first quote. -/
theorem not_hasReference_append {u t : List Char} {q : Char} (hu : ∀ c ∈ u, isQuote c = false)
    (hq : isQuote q = true)
    (hFirst : (∀ attr : LinkAttribute, ¬ attr.lead <:+ u) ∨ ¬ staticRoot <+: t)
    (h : ¬ HasReference t) : ¬ HasReference (u ++ q :: t) := by
  have hLead (u : List Char) (hu : ∀ c ∈ u, isQuote c = false)
      (hFirst : (∀ attr : LinkAttribute, ¬ attr.lead <:+ u) ∨ ¬ staticRoot <+: t) (r : Reference) :
      ¬ r.text <+: u ++ q :: t := by
    rintro ⟨rest, hText⟩
    rw [r.text_append] at hText
    obtain ⟨rfl, -, rfl⟩ := split_at_quote r.attr.lead_unquoted hu r.opening_quote hq hText
    rcases hFirst with hLead | hRoot
    · exact hLead r.attr List.suffix_rfl
    · exact hRoot ((List.prefix_append _ _).trans (List.prefix_append _ _))
  -- both what `u` ends in and what `t` begins with stay the same from character to character
  induction u with
  | nil =>
    rw [List.nil_append, hasReference_cons, not_or, not_exists]
    exact ⟨hLead [] hu hFirst, h⟩
  | cons c u ih =>
    rw [List.cons_append, hasReference_cons, not_or, not_exists]
    refine ⟨hLead (c :: u) hu hFirst, ih (fun c hc => hu c (List.mem_cons_of_mem _ hc)) ?_⟩
    exact hFirst.imp_left fun hLead attr hEnd => hLead attr (hEnd.trans (List.suffix_cons _ _))

theorem not_staticRoot_prefix (mediaDir path rest : List Char) :
    ¬ staticRoot <+: mediaPathText mediaDir path ++ rest := by
  rintro ⟨t, ht⟩
  have hFirst : '/' = '.' := (List.cons.inj ht).1
  exact absurd hFirst (by decide)

theorem not_lead_suffix (mediaDir path : List Char) (attr : LinkAttribute) :
    ¬ attr.lead <:+ mediaPathText mediaDir path := by
  rintro ⟨t, ht⟩
  have hLast := congrArg List.getLast? ht
  rw [LinkAttribute.lead, ← List.append_assoc, List.getLast?_concat, mediaPathText,
    List.getLast?_append_cons] at hLast
  rcases List.mem_cons.mp (List.mem_of_getLast? hLast.symm) with hSlash | hName
  · exact absurd hSlash (by decide)
  · exact absurd (isSafe_of_mem_mediaName hName) (by decide)

/-- No reference is left in a rewritten text. -/
theorem not_hasReference_rewriteLinks {mediaDir : List Char}
    (hMedia : ∀ c ∈ mediaDir, isQuote c = false) (s : List Char) :
    ¬ HasReference (rewriteLinks mediaDir s) := by
  induction s using induction_on_references with
  | nil => exact not_hasReference_nil
  | reference r rest ih =>
    rw [rewriteLinks_reference, r.rewritten_append]
    -- neither of the two quotes that have been written is the first one of a reference
    refine not_hasReference_append r.attr.lead_unquoted rfl (.inr ?_)
      (not_hasReference_append (mediaPathText_unquoted hMedia r.path) rfl (.inl ?_) ih)
    · exact not_staticRoot_prefix mediaDir r.path _
    · exact not_lead_suffix mediaDir r.path
  | other c s hStart ih =>
    rw [rewriteLinks_cons mediaDir hStart, hasReference_cons, not_or, not_exists]
    exact ⟨not_prefix_of_rewriteLinks mediaDir hStart, ih⟩

/-! ## What is replaced -/

/-- A text with a reference has a first one. -/
theorem exists_first {s : List Char} (h : HasReference s) :
    ∃ (before : List Char) (r : Reference) (rest : List Char), s = before ++ (r.text ++ rest) ∧
      r.IsFirst before rest := by
  induction s with
  | nil => exact absurd h not_hasReference_nil
  | cons c s ih =>
    by_cases hStart : ∃ r : Reference, r.text <+: c :: s
    · obtain ⟨r, rest, hText⟩ := hStart
      exact ⟨[], r, rest, hText.symm, fun _ _ _ _ => Nat.zero_le _⟩
    · obtain ⟨before, r, rest, rfl, hFirst⟩ := ih ((hasReference_cons.mp h).resolve_left hStart)
      refine ⟨c :: before, r, rest, rfl, fun x a b hText => ?_⟩
      cases a with
      | nil => exact absurd ⟨x, b, hText.symm⟩ hStart
      | cons d a =>
        obtain ⟨rfl, hRest⟩ := List.cons.inj hText
        exact Nat.succ_le_succ (hFirst x a b hRest)

/-- In every text the references can be met from left to right. -/
theorem exists_scans (s : List Char) : ∃ found last, Scans s found last := by
  induction hLength : s.length using Nat.strong_induction_on generalizing s with
  | _ n ih =>
    subst hLength
    by_cases hSome : HasReference s
    · obtain ⟨before, r, rest, rfl, hFirst⟩ := exists_first hSome
      have hPos := List.length_pos_iff.mpr r.text_ne_nil
      obtain ⟨found, last, h⟩ := ih _ (by simp only [List.length_append]; omega) rest rfl
      exact ⟨_, last, .next hFirst h⟩
    · exact ⟨[], s, .last hSome⟩

/-- What stands before the first reference of a text is kept. -/
theorem rewriteLinks_first (mediaDir : List Char) {before rest : List Char} {r : Reference}
    (hFirst : r.IsFirst before rest) :
    rewriteLinks mediaDir (before ++ (r.text ++ rest)) =
      before ++ r.rewritten mediaDir ++ rewriteLinks mediaDir rest := by
  induction before with
  | nil => exact rewriteLinks_reference mediaDir r rest
  | cons c before ih =>
    have hStart (x : Reference) : ¬ x.text <+: c :: (before ++ (r.text ++ rest)) := by
      rintro ⟨b, hb⟩
      exact absurd (hFirst x [] b hb.symm) (by simp)
    rw [List.cons_append, rewriteLinks_cons mediaDir hStart, ih fun x a b hText => ?_]
    · rfl
    · have hLength := hFirst x (c :: a) b (by rw [List.cons_append, hText]; rfl)
      simpa using hLength

/-- Of a text the references that are met from left to right are replaced, and all else is kept. -/
theorem rewriteLinks_eq_of_scans (mediaDir : List Char) {s last : List Char}
    {found : List (List Char × Reference)} (h : Scans s found last) :
    s = found.flatMap (fun x => x.1 ++ x.2.text) ++ last ∧
      rewriteLinks mediaDir s = found.flatMap (fun x => x.1 ++ x.2.rewritten mediaDir) ++ last := by
  induction h with
  | last h => exact ⟨rfl, rewriteLinks_of_not_hasReference mediaDir h⟩
  | next hFirst _ ih =>
    obtain ⟨hText, hRewritten⟩ := ih
    constructor
    · rw [List.flatMap_cons, List.append_assoc, ← hText, List.append_assoc]
    · rw [rewriteLinks_first mediaDir hFirst, hRewritten, List.flatMap_cons]
      simp only [List.append_assoc]

/--
**One pass is enough.** A rewritten text has no reference in it, so rewriting it again, with the same
media directory or another, leaves it as it is. In the text as it was the references can be met from
left to right; whichever way this is done, these are replaced, and what stands before, between and after
them is kept in order.
-/
theorem rewriteLinks_complete {mediaDir : List Char} (hMedia : ∀ c ∈ mediaDir, isQuote c = false)
    (s : List Char) :
    ¬ HasReference (rewriteLinks mediaDir s) ∧
    (∀ other, rewriteLinks other (rewriteLinks mediaDir s) = rewriteLinks mediaDir s) ∧
    (∃ found last, Scans s found last) ∧
    ∀ found last, Scans s found last →
      s = found.flatMap (fun x => x.1 ++ x.2.text) ++ last ∧
      rewriteLinks mediaDir s =
        found.flatMap (fun x => x.1 ++ x.2.rewritten mediaDir) ++ last := by
  have hNone := not_hasReference_rewriteLinks hMedia s
  refine ⟨hNone, fun other => ?_, exists_scans s, fun found last h => ?_⟩
  · exact rewriteLinks_of_not_hasReference other hNone
  · exact rewriteLinks_eq_of_scans mediaDir h

/-- A value that is not closed where it should be: what follows the link that is written begins like the
path of another, and is none. -/
theorem open_value_rewritten :
    let s := "href='/static/a src=\"/static/b.png\"".toList
    rewriteLinks "media".toList s = "href=\"./media/a_src\"/static/b.png\"".toList ∧
      ¬ HasReference (rewriteLinks "media".toList s) ∧
      rewriteLinks "m".toList (rewriteLinks "media".toList s) = rewriteLinks "media".toList s := by
  intro s
  have hMedia : ∀ c ∈ "media".toList, isQuote c = false := by
    have hNone : "media".toList.any isQuote = false := by decide
    simpa using hNone
  obtain ⟨hNone, hAgain, -⟩ := rewriteLinks_complete hMedia s
  exact ⟨by decide, hNone, hAgain _⟩

end Coursebook.Media
