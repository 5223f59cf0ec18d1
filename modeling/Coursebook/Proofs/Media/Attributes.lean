import Mathlib
import Coursebook.Proofs.Media.References

/-!
# Coursebook — references in the attributes of a page

A page, as far as it matters here, is a row of texts without quotes and of start tags whose attributes
all have a value between quotes, of either kind. Rewriting takes such a page attribute by attribute, for
a reference that begins in one attribute ends in it: of two neighbouring quotes that belong to different
attributes, the first closes a value, and what follows it never begins with `/static/`.

What becomes of a single attribute is another matter, since rewriting knows neither where the name of an
attribute begins nor which quote has opened its value.

* `rewriteLinks_write` — a page is rewritten attribute by attribute.
* `QuotedAttribute.isPlain_of_unquoted` — attributes in which no quote can mislead.
* `rewriteLinks_page` — exactly when each reference of a page is replaced as a whole, and nothing else.
* `apostrophe_cuts_value` — a page with an apostrophe in a path.
-/

namespace Coursebook.Media

/-! ## Pages -/

/-- What stands between the attributes of a tag: blanks, and slashes that count as blanks. -/
def isGap (c : Char) : Bool :=
  c == ' ' || c == '\t' || c == '\n' || c == '\r' || c == '\x0c' || c == '/'

/-- The characters of names of tags and attributes. -/
def isNameChar (c : Char) : Bool :=
  !isGap c && !isQuote c && c != '=' && c != '<' && c != '>'

/-- An attribute with its value between quotes, of which the value may have the other kind. -/
structure QuotedAttribute where
  name : List Char
  quote : Char
  value : List Char
  name_ne_nil : name ≠ []
  name_chars : ∀ c ∈ name, isNameChar c = true
  isQuote_quote : isQuote quote = true
  value_chars : ∀ c ∈ value, c ≠ '<' ∧ c ≠ '>' ∧ c ≠ quote

/-- A start tag. -/
structure StartTag where
  name : List Char
  /-- The attributes, each with what stands before it. -/
  attributes : List (List Char × QuotedAttribute)
  /-- What stands before the `>`. -/
  filler : List Char
  name_chars : ∀ c ∈ name, isNameChar c = true
  gaps : ∀ x ∈ attributes, ∀ c ∈ x.1, isGap c = true
  /-- Only behind the quote of another attribute may one begin at once. -/
  parted : ∀ x ∈ attributes.head?, x.1 ≠ []
  filler_gap : ∀ c ∈ filler, isGap c = true

/-- A piece of a page. -/
inductive Fragment where
  /-- Text without quotes; end tags are as good as text. -/
  | text (s : List Char) (unquoted : ∀ c ∈ s, isQuote c = false)
  | tag (t : StartTag)

/-- A piece of a page, with each attribute written in some way. -/
def Fragment.write (f : QuotedAttribute → List Char) : Fragment → List Char
  | .text s _ => s
  | .tag t => '<' :: (t.name ++ (t.attributes.flatMap (fun x => x.1 ++ f x.2) ++ (t.filler ++ ['>'])))

/-- A page, with each attribute written in some way. -/
def write (f : QuotedAttribute → List Char) (page : List Fragment) : List Char :=
  page.flatMap (Fragment.write f)

/-- The attributes in a piece of a page. -/
def Fragment.attributes : Fragment → List QuotedAttribute
  | .text _ _ => []
  | .tag t => t.attributes.map Prod.snd

/-- The attributes in a page. -/
def attributesOf (page : List Fragment) : List QuotedAttribute := page.flatMap Fragment.attributes

namespace QuotedAttribute

/-- An attribute as it stands in a page. -/
def text (a : QuotedAttribute) : List Char := a.name ++ '=' :: a.quote :: (a.value ++ [a.quote])

/-- The attribute that refers to a file, by its whole name. -/
def link? (a : QuotedAttribute) : Option LinkAttribute :=
  if a.name = LinkAttribute.src.name then some .src
  else if a.name = LinkAttribute.href.name then some .href
  else none

/-- The path that a value has below the static directory, to the end of the value. -/
def path? (a : QuotedAttribute) : Option (List Char) :=
  if staticRoot.isPrefixOf a.value && staticRoot.length < a.value.length then
    some (a.value.drop staticRoot.length)
  else none

/-- The attribute as it should be: with the name in the media directory, if it refers to a static file,
and else as it is. -/
def resolved (mediaDir : List Char) (a : QuotedAttribute) : List Char :=
  match a.link?, a.path? with
  | some attr, some path => mediaLink attr mediaDir (mediaName path)
  | _, _ => a.text

/-- Whether quotes do not mislead in an attribute: there is none in the path, if it refers to a static
file, and else there is no reference in its text. -/
def IsPlain (a : QuotedAttribute) : Prop :=
  match a.link?, a.path? with
  | some _, some path => ∀ c ∈ path, isQuote c = false
  | _, _ => ¬ HasReference a.text

instance (a : QuotedAttribute) : Decidable a.IsPlain :=
  match hLink : a.link?, hPath : a.path? with
  | some _, some path =>
    decidable_of_iff (path.all (fun c => !isQuote c) = true) (by simp [IsPlain, hLink, hPath])
  | none, _ => decidable_of_iff (¬ HasReference a.text) (by rw [IsPlain, hLink])
  | some _, none => decidable_of_iff (¬ HasReference a.text) (by rw [IsPlain, hLink, hPath])

end QuotedAttribute

/-! ## Texts that follow each other -/

/-- Texts are rewritten one by one if no reference begins in the first and ends in the second. -/
theorem rewriteLinks_append (mediaDir : List Char) {x s : List Char}
    (h : ∀ t, t <:+ x → t ≠ [] → ∀ r : Reference, r.text <+: t ++ s → r.text <+: t) :
    rewriteLinks mediaDir (x ++ s) = rewriteLinks mediaDir x ++ rewriteLinks mediaDir s := by
  induction x using induction_on_references with
  | nil => rfl
  | reference r rest ih =>
    rw [List.append_assoc, rewriteLinks_reference, rewriteLinks_reference, List.append_assoc,
      ih fun t ht => h t (ht.trans (List.suffix_append _ _))]
  | other c x hStart ih =>
    have hStart' (r : Reference) : ¬ r.text <+: c :: (x ++ s) := fun hr =>
      hStart r (h (c :: x) List.suffix_rfl (List.cons_ne_nil _ _) r hr)
    rw [List.cons_append, rewriteLinks_cons mediaDir hStart', rewriteLinks_cons mediaDir hStart,
      ih fun t ht => h t (ht.trans (List.suffix_cons _ _)), List.cons_append]

theorem Reference.opening_not_mem (r : Reference) {u : List Char} (hu : ∀ c ∈ u, isQuote c = false) :
    r.opening ∉ u := by
  intro hMem
  have hQuote := hu _ hMem
  rw [r.opening_quote] at hQuote
  cases hQuote

theorem not_hasReference_of_unquoted {u : List Char} (hu : ∀ c ∈ u, isQuote c = false) :
    ¬ HasReference u := by
  rintro ⟨r, hr⟩
  have hOpening : r.opening ∈ r.text := by simp [Reference.text, linkText]
  exact r.opening_not_mem hu (hr.subset hOpening)

theorem Reference.text_eq (r : Reference) :
    r.text = r.attr.lead ++ [r.opening] ++ (staticRoot ++ r.path) ++ [r.closing] := by
  simpa using r.text_append []

theorem Reference.lead_prefix (r : Reference) : r.attr.lead ++ [r.opening] <+: r.text := by
  rw [r.text_eq, List.append_assoc]
  exact List.prefix_append _ _

/-- Whether no reference has a character before its first quote. -/
def IsBarrier (c : Char) : Prop := ∀ attr : LinkAttribute, c ∉ attr.lead

/-- A text without quotes is kept if no reference can begin in it and go on behind it. -/
theorem rewriteLinks_unquoted (mediaDir : List Char) {u : List Char}
    (hu : ∀ c ∈ u, isQuote c = false) (hEnd : ∀ c ∈ u.getLast?, IsBarrier c) (s : List Char) :
    rewriteLinks mediaDir (u ++ s) = u ++ rewriteLinks mediaDir s := by
  have hNone := rewriteLinks_of_not_hasReference mediaDir (not_hasReference_of_unquoted hu)
  rw [rewriteLinks_append mediaDir fun t ht hNonempty r hr => ?_, hNone]
  exfalso
  have hUnquoted : ∀ c ∈ t, isQuote c = false := fun c hc => hu c (ht.subset hc)
  have hLead : r.attr.lead ++ [r.opening] <+: t ++ s := r.lead_prefix.trans hr
  have hOpening : ¬ r.attr.lead ++ [r.opening] <+: t := fun hIn =>
    r.opening_not_mem hUnquoted (hIn.subset (by simp))
  -- the text ends before the quote of the reference, within what this begins with
  rcases List.prefix_or_prefix_of_prefix hLead (List.prefix_append t s) with hIn | hIn
  · exact hOpening hIn
  · rcases List.prefix_concat_iff.mp hIn with rfl | hIn
    · exact hOpening List.prefix_rfl
    · have hLast : t.getLast hNonempty ∈ u.getLast? := by
        obtain ⟨v, rfl⟩ := ht
        rw [List.getLast?_append_of_ne_nil _ hNonempty, List.getLast?_eq_some_getLast hNonempty]
        rfl
      exact hEnd _ hLast r.attr (hIn.subset (List.getLast_mem hNonempty))

/-- The same of a text before a character that no reference has before its first quote. -/
theorem rewriteLinks_before (mediaDir : List Char) {u : List Char}
    (hu : ∀ c ∈ u, isQuote c = false) {c : Char} (hQuote : isQuote c = false) (hc : IsBarrier c)
    (s : List Char) : rewriteLinks mediaDir (u ++ c :: s) = u ++ rewriteLinks mediaDir (c :: s) := by
  -- the character is kept with the text, and it is kept alone
  have hOne (u : List Char) (hu : ∀ c ∈ u, isQuote c = false) :
      rewriteLinks mediaDir ((u ++ [c]) ++ s) = (u ++ [c]) ++ rewriteLinks mediaDir s := by
    refine rewriteLinks_unquoted mediaDir ?_ ?_ s
    · intro d hd
      rcases List.mem_append.mp hd with hd | hd
      · exact hu d hd
      · rwa [List.mem_singleton.mp hd]
    · rw [List.getLast?_concat]
      rintro d ⟨⟩
      exact hc
  have hAlone := hOne [] fun _ hd => absurd hd List.not_mem_nil
  rw [List.nil_append, List.singleton_append] at hAlone
  rw [List.append_cons, hOne u hu, List.append_assoc, hAlone, List.singleton_append]

/-! ## Attribute by attribute -/

theorem countP_of_unquoted {s : List Char} (h : ∀ c ∈ s, isQuote c = false) :
    s.countP isQuote = 0 :=
  List.countP_eq_zero.mpr fun c hc => by simp [h c hc]

theorem unquoted_of_countP {s : List Char} (h : s.countP isQuote = 0) :
    ∀ c ∈ s, isQuote c = false := by
  simpa using List.countP_eq_zero.mp h

/-- A quote with none before or behind it is where texts come apart. -/
theorem split_at_only_quote {u u' t t' : List Char} {q q' : Char}
    (hu' : ∀ c ∈ u', isQuote c = false) (ht' : ∀ c ∈ t', isQuote c = false)
    (hq : isQuote q = true) (hq' : isQuote q' = true) (h : u ++ q :: t = u' ++ q' :: t') :
    u = u' ∧ q = q' ∧ t = t' := by
  have hCount := congrArg (List.countP isQuote) h
  simp only [List.countP_append, List.countP_cons, hq, hq', if_true, countP_of_unquoted hu',
    countP_of_unquoted ht'] at hCount
  exact split_at_quote (unquoted_of_countP (by omega)) hu' hq hq' h

/-- The same of two quotes, of which the second ends one of the texts. -/
theorem split_at_quotes {u u' m m' t : List Char} {p p' q q' : Char}
    (hu' : ∀ c ∈ u', isQuote c = false) (hm : ∀ c ∈ m, isQuote c = false)
    (hm' : ∀ c ∈ m', isQuote c = false) (hq : isQuote q = true) (hq' : isQuote q' = true)
    (hp : isQuote p = true) (hp' : isQuote p' = true)
    (h : u ++ q :: (m ++ p :: t) = u' ++ q' :: (m' ++ [p'])) : u = u' ∧ m = m' := by
  have hCount := congrArg (List.countP isQuote) h
  simp only [List.countP_append, List.countP_cons, List.countP_nil, hq, hq', hp, hp', if_true,
    countP_of_unquoted hu', countP_of_unquoted hm, countP_of_unquoted hm'] at hCount
  obtain ⟨hFirst, -, hRest⟩ :=
    split_at_quote (unquoted_of_countP (by omega)) hu' hq hq' h
  exact ⟨hFirst, (split_at_quote hm hm' hp hp' hRest).1⟩

/-- What is behind an attribute has no part in a reference that begins in it. -/
theorem rewriteLinks_attribute (mediaDir : List Char) (a : QuotedAttribute) {s : List Char}
    (hNext : ¬ staticRoot <+: s) :
    rewriteLinks mediaDir (a.text ++ s) = rewriteLinks mediaDir a.text ++ rewriteLinks mediaDir s := by
  refine rewriteLinks_append mediaDir fun t ht hNonempty r hr => ?_
  rcases List.prefix_or_prefix_of_prefix hr (List.prefix_append t s) with hIn | hIn
  · exact hIn
  -- else the reference goes on behind the attribute, of which it has a part up to the last quote
  obtain ⟨v, rfl⟩ : ∃ v, t = v ++ [a.quote] := by
    obtain ⟨v, hv⟩ := ht
    have hLast := congrArg List.getLast? hv
    rw [List.getLast?_append_of_ne_nil _ hNonempty, QuotedAttribute.text,
      List.append_cons, List.append_cons, ← List.append_assoc, List.getLast?_concat] at hLast
    exact ⟨_, (List.dropLast_append_getLast? _ hLast).symm⟩
  rw [r.text_eq] at hIn ⊢
  rcases List.prefix_concat_iff.mp hIn with hAll | ⟨w, hw⟩
  · rw [hAll]
  · -- the quote that ends the attribute is the first of the reference
    rw [List.append_assoc, List.append_assoc] at hw
    obtain ⟨rfl, hQuote, -⟩ := split_at_only_quote r.attr.lead_unquoted r.staticPath_unquoted
      a.isQuote_quote r.opening_quote hw
    rw [r.text_eq, hQuote, List.append_assoc, List.prefix_append_right_inj, List.append_assoc] at hr
    exact absurd ((List.prefix_append _ _).trans hr) hNext

theorem isQuote_of_isNameChar {c : Char} (h : isNameChar c = true) : isQuote c = false :=
  not_isQuote_of (by decide) (by decide) h

theorem ne_slash_of_isNameChar {c : Char} (h : isNameChar c = true) : c ≠ '/' := by
  rintro rfl
  exact absurd h (by decide)

theorem isQuote_of_isGap {c : Char} (h : isGap c = true) : isQuote c = false :=
  not_isQuote_of (by decide) (by decide) h

theorem isBarrier_of_isGap {c : Char} (h : isGap c = true) : IsBarrier c := by
  have hLead : ∀ attr : LinkAttribute, attr.lead.all (fun c => !isGap c) = true := by
    intro attr
    cases attr <;> decide
  intro attr hc
  have hNot := List.all_eq_true.mp (hLead attr) c hc
  simp [h] at hNot

theorem isBarrier_open : IsBarrier '<' := by
  intro attr
  cases attr <;> decide

theorem isBarrier_close : IsBarrier '>' := by
  intro attr
  cases attr <;> decide

/-- What is at the start of a text up to a character that it does not have is in what stands before
that character. -/
theorem prefix_of_not_mem {w u r : List Char} {c : Char} (hc : c ∉ w) (h : w <+: u ++ c :: r) :
    w <+: u := by
  rw [List.append_cons] at h
  rcases List.prefix_or_prefix_of_prefix h (List.prefix_append (u ++ [c]) r) with hIn | hIn
  · rcases List.prefix_concat_iff.mp hIn with rfl | hIn
    · exact absurd (by simp) hc
    · exact hIn
  · exact absurd (hIn.subset (by simp)) hc

variable {attributes : List (List Char × QuotedAttribute)} {filler : List Char}

/-- Behind an attribute there is nothing that begins like the path of a static file. -/
theorem not_staticRoot_behind (hGaps : ∀ x ∈ attributes, ∀ c ∈ x.1, isGap c = true)
    (hFiller : ∀ c ∈ filler, isGap c = true) (s : List Char) :
    ¬ staticRoot <+:
      attributes.flatMap (fun x => x.1 ++ x.2.text) ++ (filler ++ '>' :: s) := by
  have hLetter {c : Char} (hc : isGap c = true) : 's' ≠ c := by
    rintro rfl
    exact absurd hc (by decide)
  intro h
  cases attributes with
  | nil =>
    have hIn : staticRoot <+: filler := prefix_of_not_mem (by decide) h
    exact hLetter (hFiller 's' (hIn.subset (by decide))) rfl
  | cons x r =>
    obtain ⟨gap, a⟩ := x
    have hName : '/' ∉ a.name := fun hc => ne_slash_of_isNameChar (a.name_chars _ hc) rfl
    have hIn : staticRoot <+: gap ++ a.name := by
      rw [List.flatMap_cons, QuotedAttribute.text, ← List.append_assoc gap, List.append_assoc,
        List.append_assoc, List.cons_append] at h
      exact prefix_of_not_mem (by decide) h
    -- the letter behind the first slash is in no gap, so the second slash would be in the name
    match gap, hGaps _ List.mem_cons_self, hIn with
    | [], _, hIn => exact hName (hIn.subset (by decide))
    | [_], _, hIn => exact hName ((List.cons_prefix_cons.mp hIn).2.subset (by decide))
    | _ :: c :: _, hGap, hIn =>
      have hSecond := (List.cons_prefix_cons.mp (List.cons_prefix_cons.mp hIn).2).1
      exact hLetter (hGap c (by simp)) hSecond

/-- The attributes of a tag are rewritten one by one. -/
theorem rewriteLinks_attributes (mediaDir : List Char)
    (hGaps : ∀ x ∈ attributes, ∀ c ∈ x.1, isGap c = true)
    (hFiller : ∀ c ∈ filler, isGap c = true) (s : List Char) :
    rewriteLinks mediaDir
        (attributes.flatMap (fun x => x.1 ++ x.2.text) ++ (filler ++ '>' :: s)) =
      attributes.flatMap (fun x => x.1 ++ rewriteLinks mediaDir x.2.text) ++
        rewriteLinks mediaDir (filler ++ '>' :: s) := by
  induction attributes with
  | nil => rfl
  | cons x r ih =>
    have hRest : ∀ x ∈ r, ∀ c ∈ x.1, isGap c = true :=
      fun x hx => hGaps x (List.mem_cons_of_mem _ hx)
    have hGap : ∀ c ∈ x.1, isGap c = true := hGaps x List.mem_cons_self
    rw [List.flatMap_cons, List.flatMap_cons, List.append_assoc, List.append_assoc,
      rewriteLinks_unquoted mediaDir (fun c hc => isQuote_of_isGap (hGap c hc))
        (fun c hc => isBarrier_of_isGap (hGap c (List.mem_of_getLast? hc))),
      rewriteLinks_attribute mediaDir _ (not_staticRoot_behind hRest hFiller s), ih hRest]
    simp only [List.append_assoc]

/-- The name of a tag ends at a blank, at a slash or at the end of the tag. -/
theorem StartTag.exists_barrier (t : StartTag) (s : List Char) :
    ∃ c r, t.attributes.flatMap (fun x => x.1 ++ x.2.text) ++ (t.filler ++ '>' :: s) = c :: r ∧
      isQuote c = false ∧ IsBarrier c := by
  have hGaps := t.gaps
  have hParted := t.parted
  cases hAttributes : t.attributes with
  | nil =>
    cases hFiller : t.filler with
    | nil => exact ⟨'>', s, rfl, rfl, isBarrier_close⟩
    | cons c r =>
      have hc := t.filler_gap c (hFiller ▸ List.mem_cons_self)
      exact ⟨c, _, rfl, isQuote_of_isGap hc, isBarrier_of_isGap hc⟩
  | cons x attributes =>
    rw [hAttributes] at hGaps hParted
    obtain ⟨c, r, hGap⟩ := List.exists_cons_of_ne_nil (hParted x rfl)
    have hc := hGaps x List.mem_cons_self c (hGap ▸ List.mem_cons_self)
    rw [List.flatMap_cons, hGap]
    exact ⟨c, _, rfl, isQuote_of_isGap hc, isBarrier_of_isGap hc⟩

/-- A page is rewritten attribute by attribute, and all else in it is kept. -/
theorem rewriteLinks_write (mediaDir : List Char) (page : List Fragment) {u : List Char}
    (hu : ∀ c ∈ u, isQuote c = false) :
    rewriteLinks mediaDir (u ++ write QuotedAttribute.text page) =
      u ++ write (fun a => rewriteLinks mediaDir a.text) page := by
  induction page generalizing u with
  | nil =>
    simp only [write, List.flatMap_nil, List.append_nil]
    exact rewriteLinks_of_not_hasReference mediaDir (not_hasReference_of_unquoted hu)
  | cons x page ih =>
    have hCons (f : QuotedAttribute → List Char) :
        write f (x :: page) = x.write f ++ write f page := List.flatMap_cons
    rw [hCons, hCons]
    cases x with
    | text t ht =>
      -- what comes before is one text with this one
      rw [Fragment.write, Fragment.write, ← List.append_assoc, ← List.append_assoc, ih fun c hc => ?_]
      exact (List.mem_append.mp hc).elim (hu c) (ht c)
    | tag t =>
      have hName : ∀ c ∈ '<' :: t.name, isQuote c = false :=
        List.forall_mem_cons.mpr ⟨rfl, fun c hc => isQuote_of_isNameChar (t.name_chars c hc)⟩
      have hFiller : ∀ c ∈ t.filler ++ ['>'], isQuote c = false := by
        intro c hc
        rcases List.mem_append.mp hc with hc | hc
        · exact isQuote_of_isGap (t.filler_gap c hc)
        · rw [List.mem_singleton.mp hc]
          rfl
      have hRest := ih hFiller
      obtain ⟨c, s, hBehind, hQuote, hc⟩ := t.exists_barrier (write QuotedAttribute.text page)
      have hTag := rewriteLinks_attributes mediaDir t.gaps t.filler_gap
        (write QuotedAttribute.text page)
      simp only [Fragment.write, List.append_assoc, List.cons_append, List.nil_append]
        at hRest hTag ⊢
      rw [rewriteLinks_before mediaDir hu rfl isBarrier_open, hBehind, ← List.cons_append,
        rewriteLinks_before mediaDir hName hQuote hc, ← hBehind, hTag, hRest]
      rfl

/-! ## A single attribute -/

namespace QuotedAttribute

/-- Whether an attribute refers to a static file: by its whole name, and by a path that goes on to the
end of its value. -/
def RefersTo (a : QuotedAttribute) (attr : LinkAttribute) (path : List Char) : Prop :=
  a.name = attr.name ∧ a.value = staticRoot ++ path ∧ path ≠ []

theorem link?_eq_some {a : QuotedAttribute} {attr : LinkAttribute} :
    a.link? = some attr ↔ a.name = attr.name := by
  unfold link?
  cases attr with
  | src =>
    split
    · simp_all
    · split <;> simp_all
  | href =>
    split
    · rename_i hSrc
      simp [hSrc, LinkAttribute.name]
    · split <;> simp_all

theorem path?_eq_some {a : QuotedAttribute} {path : List Char} :
    a.path? = some path ↔ a.value = staticRoot ++ path ∧ path ≠ [] := by
  unfold path?
  split
  · rename_i hRoot
    rw [Bool.and_eq_true, List.isPrefixOf_iff_prefix, decide_eq_true_eq] at hRoot
    obtain ⟨⟨t, ht⟩, hLonger⟩ := hRoot
    have hSome : t ≠ [] := by
      rintro rfl
      simp [← ht] at hLonger
    rw [← ht, List.drop_left, List.append_cancel_left_eq, Option.some.injEq]
    exact ⟨fun h => ⟨h, h ▸ hSome⟩, And.left⟩
  · rename_i hRoot
    refine iff_of_false (by simp) fun ⟨hValue, hSome⟩ => hRoot ?_
    simp [hValue, List.length_pos_iff.mpr hSome]

/-- An attribute refers to a static file, or it is to be left as it is. -/
theorem cases (a : QuotedAttribute) :
    (∃ attr path, a.RefersTo attr path ∧
      (∀ mediaDir, a.resolved mediaDir = mediaLink attr mediaDir (mediaName path)) ∧
      (a.IsPlain ↔ ∀ c ∈ path, isQuote c = false)) ∨
    ((∀ attr path, ¬ a.RefersTo attr path) ∧ (∀ mediaDir, a.resolved mediaDir = a.text) ∧
      (a.IsPlain ↔ ¬ HasReference a.text)) := by
  by_cases hRefers : ∃ attr path, a.RefersTo attr path
  · obtain ⟨attr, path, hName, hValue⟩ := hRefers
    have hLink := link?_eq_some.mpr hName
    have hPath := path?_eq_some.mpr hValue
    exact .inl ⟨attr, path, ⟨hName, hValue⟩, fun mediaDir => by simp [resolved, hLink, hPath],
      by simp [IsPlain, hLink, hPath]⟩
  · have hNone : a.link? = none ∨ a.path? = none := by
      by_contra hSome
      rw [not_or] at hSome
      obtain ⟨attr, hLink⟩ := Option.ne_none_iff_exists'.mp hSome.1
      obtain ⟨path, hPath⟩ := Option.ne_none_iff_exists'.mp hSome.2
      exact hRefers ⟨attr, path, link?_eq_some.mp hLink, path?_eq_some.mp hPath⟩
    refine .inr ⟨fun attr path h => hRefers ⟨attr, path, h⟩, fun mediaDir => ?_, ?_⟩
    · rcases hNone with hNone | hNone <;> simp [resolved, hNone]
    · rcases hNone with hNone | hNone <;> simp [IsPlain, hNone]

theorem RefersTo.text_eq {a : QuotedAttribute} {attr : LinkAttribute} {path : List Char}
    (h : a.RefersTo attr path) : a.text = linkText attr a.quote a.quote path := by
  rw [text, linkText, h.1, h.2.1]

/-- A plain attribute is rewritten as it should be. -/
theorem rewriteLinks_of_isPlain (mediaDir : List Char) {a : QuotedAttribute} (h : a.IsPlain) :
    rewriteLinks mediaDir a.text = a.resolved mediaDir := by
  rcases a.cases with ⟨attr, path, hRefers, hResolved, hPlain⟩ | ⟨-, hResolved, hPlain⟩
  · have hLink := linksTo_mediaName mediaDir hRefers.2.2 (hPlain.mp h) attr _ _ []
      a.isQuote_quote a.isQuote_quote
    rw [List.append_nil] at hLink
    rw [hRefers.text_eq, hLink, hResolved]
    exact List.append_nil _
  · rw [hResolved, rewriteLinks_of_not_hasReference mediaDir (hPlain.mp h)]

/-- An attribute is plain if its value has no quote and its name is not one that only ends like that of
a link. -/
theorem isPlain_of_unquoted {a : QuotedAttribute} (hValue : ∀ c ∈ a.value, isQuote c = false)
    (hName : ∀ attr : LinkAttribute, attr.name <:+ a.name → a.name = attr.name) : a.IsPlain := by
  rcases a.cases with ⟨attr, path, hRefers, -, hPlain⟩ | ⟨hNone, -, hPlain⟩
  · refine hPlain.mpr fun c hc => hValue c ?_
    rw [hRefers.2.1]
    exact List.mem_append_right _ hc
  · refine hPlain.mpr ?_
    rintro ⟨r, before, behind, hText⟩
    have hStart : ∀ c ∈ a.name ++ ['='], isQuote c = false :=
      List.forall_mem_append.mpr
        ⟨fun c hc => isQuote_of_isNameChar (a.name_chars c hc), by simp [isQuote]⟩
    rw [List.append_assoc, r.text_append, ← List.append_assoc, text, List.append_cons a.name] at hText
    -- the attribute has two quotes, and they are those of the reference
    obtain ⟨hName', hValue'⟩ := split_at_quotes hStart r.staticPath_unquoted hValue r.opening_quote
      a.isQuote_quote r.closing_quote a.isQuote_quote hText
    rw [LinkAttribute.lead, ← List.append_assoc, List.append_cancel_right_eq] at hName'
    exact hNone r.attr r.path ⟨hName r.attr ⟨before, hName'⟩, hValue'.symm, r.nonempty⟩

end QuotedAttribute

/-! ## Counting quotes -/

theorem countP_linkText (attr : LinkAttribute) {opening closing : Char}
    (hOpening : isQuote opening = true) (hClosing : isQuote closing = true) (path : List Char) :
    (linkText attr opening closing path).countP isQuote = path.countP isQuote + 2 := by
  have hName : attr.name.countP isQuote = 0 := by cases attr <;> decide
  have hRoot := countP_of_unquoted staticRoot_unquoted
  have hEquals : isQuote '=' = false := rfl
  simp [linkText, List.countP_append, hName, hRoot, hOpening, hClosing, hEquals]

theorem countP_mediaLink {mediaDir : List Char} (hMedia : ∀ c ∈ mediaDir, isQuote c = false)
    (attr : LinkAttribute) (path : List Char) :
    (mediaLink attr mediaDir (mediaName path)).countP isQuote = 2 := by
  have hLead := countP_of_unquoted attr.lead_unquoted
  have hMiddle := countP_of_unquoted (mediaPathText_unquoted hMedia path)
  have hQuote : isQuote '"' = true := rfl
  have hText := mediaLink_append mediaDir attr path []
  rw [List.append_nil] at hText
  simp [hText, List.countP_append, hLead, hMiddle, hQuote]

/-- Rewriting keeps the number of quotes. -/
theorem countP_rewriteLinks {mediaDir : List Char} (hMedia : ∀ c ∈ mediaDir, isQuote c = false)
    (s : List Char) : (rewriteLinks mediaDir s).countP isQuote = s.countP isQuote := by
  induction s using induction_on_references with
  | nil => rfl
  | reference r rest ih =>
    rw [rewriteLinks_reference, List.countP_append, List.countP_append, ih, Reference.rewritten,
      countP_mediaLink hMedia, Reference.text, countP_linkText _ r.opening_quote r.closing_quote,
      countP_of_unquoted r.unquoted]
  | other c s hStart ih =>
    rw [rewriteLinks_cons mediaDir hStart, List.countP_cons, List.countP_cons, ih]

/-- An attribute as it should be has no more quotes than it has, and fewer if there is one in the path
of a static file. -/
theorem countP_resolved {mediaDir : List Char} (hMedia : ∀ c ∈ mediaDir, isQuote c = false)
    (a : QuotedAttribute) :
    (a.resolved mediaDir).countP isQuote ≤ a.text.countP isQuote ∧
      ((a.resolved mediaDir).countP isQuote = a.text.countP isQuote →
        a.IsPlain ∨ a.resolved mediaDir = a.text ∧ HasReference a.text) := by
  rcases a.cases with ⟨attr, path, hRefers, hResolved, hPlain⟩ | ⟨-, hResolved, hPlain⟩
  · rw [hResolved, hRefers.text_eq, countP_mediaLink hMedia,
      countP_linkText _ a.isQuote_quote a.isQuote_quote]
    refine ⟨Nat.le_add_left _ _, fun hSame => .inl (hPlain.mpr ?_)⟩
    exact unquoted_of_countP (by omega)
  · rw [hResolved]
    refine ⟨Nat.le_refl _, fun _ => ?_⟩
    rw [hPlain]
    exact (Classical.em (HasReference a.text)).symm.imp_right fun h => ⟨rfl, h⟩

theorem countP_write (f : QuotedAttribute → List Char) (page : List Fragment) :
    (write f page).countP isQuote =
      (write (fun _ => []) page).countP isQuote +
        ((attributesOf page).map fun a => (f a).countP isQuote).sum := by
  induction page with
  | nil => rfl
  | cons x page ih =>
    cases x with
    | text t ht =>
      simp only [write, attributesOf, List.flatMap_cons, Fragment.write, Fragment.attributes,
        List.countP_append, List.nil_append] at ih ⊢
      omega
    | tag t =>
      have hAttributes : (t.attributes.flatMap fun x => x.1 ++ f x.2).countP isQuote =
          (t.attributes.flatMap fun x => x.1 ++ []).countP isQuote +
            ((t.attributes.map Prod.snd).map fun a => (f a).countP isQuote).sum := by
        simp [List.countP_flatMap, Function.comp_def, List.sum_map_add]
      simp only [write, attributesOf, List.flatMap_cons, Fragment.write, Fragment.attributes,
        List.countP_append, List.countP_cons, List.map_append, List.sum_append] at ih hAttributes ⊢
      omega

/-! ## Whole pages -/

/-- A reference that is replaced makes a difference right behind its first quote. -/
theorem rewriteLinks_ne {mediaDir s : List Char} (h : HasReference s) (t t' : List Char) :
    rewriteLinks mediaDir s ++ t ≠ s ++ t' := by
  obtain ⟨before, r, rest, rfl, hFirst⟩ := exists_first h
  intro hSame
  rw [rewriteLinks_first mediaDir hFirst] at hSame
  simp only [List.append_assoc, List.append_cancel_left_eq] at hSame
  rw [r.rewritten_append, r.text_append] at hSame
  obtain ⟨-, -, hBehind⟩ :=
    split_at_quote r.attr.lead_unquoted r.attr.lead_unquoted rfl r.opening_quote hSame
  have hFirst : '.' = '/' := (List.cons.inj hBehind).1
  exact absurd hFirst (by decide)

variable {f g : QuotedAttribute → List Char}

/-- Two ways to write attributes that give the same tag are the same for them, if where they differ at
all no text behind makes up for it. -/
theorem eq_of_attributes_eq (attributes : List (List Char × QuotedAttribute))
    (hEach : ∀ x ∈ attributes, f x.2 = g x.2 ∨ ∀ t t', f x.2 ++ t ≠ g x.2 ++ t') {t t' : List Char}
    (h : attributes.flatMap (fun x => x.1 ++ f x.2) ++ t =
      attributes.flatMap (fun x => x.1 ++ g x.2) ++ t') :
    (∀ x ∈ attributes, f x.2 = g x.2) ∧ t = t' := by
  induction attributes with
  | nil => exact ⟨fun _ hx => absurd hx List.not_mem_nil, h⟩
  | cons x r ih =>
    obtain ⟨hOne, hEach⟩ := List.forall_mem_cons.mp hEach
    simp only [List.flatMap_cons, List.append_assoc, List.append_cancel_left_eq] at h
    rcases hOne with hOne | hDiffer
    · rw [hOne, List.append_cancel_left_eq] at h
      obtain ⟨hAll, hRest⟩ := ih hEach h
      exact ⟨List.forall_mem_cons.mpr ⟨hOne, hAll⟩, hRest⟩
    · exact absurd h (hDiffer _ _)

/-- The same of the attributes of a page. -/
theorem eq_of_write_eq (page : List Fragment)
    (hEach : ∀ a ∈ attributesOf page, f a = g a ∨ ∀ t t', f a ++ t ≠ g a ++ t')
    (h : write f page = write g page) : ∀ a ∈ attributesOf page, f a = g a := by
  induction page with
  | nil => exact fun _ ha => absurd ha List.not_mem_nil
  | cons x page ih =>
    simp only [attributesOf, write, List.flatMap_cons, List.forall_mem_append] at hEach h ih ⊢
    cases x with
    | text t ht =>
      rw [Fragment.write, Fragment.write, List.append_cancel_left_eq] at h
      exact ⟨fun _ ha => absurd ha List.not_mem_nil, ih hEach.2 h⟩
    | tag t =>
      simp only [Fragment.write, List.cons_append, List.append_assoc, List.cons.injEq, true_and,
        List.append_cancel_left_eq] at h
      have hTag := hEach.1
      simp only [Fragment.attributes, List.forall_mem_map] at hTag ⊢
      obtain ⟨hAll, hRest⟩ := eq_of_attributes_eq t.attributes hTag h
      simp only [List.append_cancel_left_eq, List.cons.injEq, true_and] at hRest
      exact ⟨hAll, ih hEach.2 hRest⟩

/-- If a page is rewritten as it should be, no quote in it misleads. -/
theorem isPlain_of_eq {mediaDir : List Char} (hMedia : ∀ c ∈ mediaDir, isQuote c = false)
    {page : List Fragment}
    (h : rewriteLinks mediaDir (write QuotedAttribute.text page) =
      write (QuotedAttribute.resolved mediaDir) page) :
    ∀ a ∈ attributesOf page, a.IsPlain := by
  rw [← List.nil_append (write _ page),
    rewriteLinks_write mediaDir page fun _ hc => absurd hc List.not_mem_nil, List.nil_append] at h
  -- there are as many quotes as before, so every attribute should have as many as it has
  have hCount : ∀ a ∈ attributesOf page,
      (a.resolved mediaDir).countP isQuote = a.text.countP isQuote := by
    have hSum := congrArg (List.countP isQuote) h
    rw [countP_write, countP_write (QuotedAttribute.resolved mediaDir), Nat.add_left_cancel_iff]
      at hSum
    simp only [countP_rewriteLinks hMedia] at hSum
    by_contra hNot
    push Not at hNot
    obtain ⟨a, ha, hFewer⟩ := hNot
    refine absurd hSum.symm (Nat.ne_of_lt (List.sum_lt_sum _ _ (fun a _ => ?_) ⟨a, ha, ?_⟩))
    · exact (countP_resolved hMedia a).1
    · exact Nat.lt_of_le_of_ne (countP_resolved hMedia a).1 hFewer
  have hPlain : ∀ a ∈ attributesOf page,
      a.IsPlain ∨ a.resolved mediaDir = a.text ∧ HasReference a.text :=
    fun a ha => (countP_resolved hMedia a).2 (hCount a ha)
  have hSame := eq_of_write_eq page (fun a ha => ?_) h
  · intro a ha
    rcases hPlain a ha with hPlain | ⟨hKept, hSome⟩
    · exact hPlain
    · have hEq := hSame a ha
      rw [hKept] at hEq
      exact absurd (congrArg (· ++ []) hEq) (rewriteLinks_ne hSome [] [])
  · rcases hPlain a ha with hPlain | ⟨hKept, hSome⟩
    · exact .inl (QuotedAttribute.rewriteLinks_of_isPlain mediaDir hPlain)
    · right
      rw [hKept]
      exact rewriteLinks_ne hSome

theorem write_congr {page : List Fragment} (h : ∀ a ∈ attributesOf page, f a = g a) :
    write f page = write g page := by
  refine List.flatMap_congr fun x hx => ?_
  cases x with
  | text t ht => rfl
  | tag t =>
    have hTag : t.attributes.flatMap (fun x => x.1 ++ f x.2) =
        t.attributes.flatMap fun x => x.1 ++ g x.2 := by
      refine List.flatMap_congr fun y hy => ?_
      rw [h y.2 (List.mem_flatMap.mpr ⟨_, hx, List.mem_map_of_mem hy⟩)]
    rw [Fragment.write, Fragment.write, hTag]

/--
**Quotes decide what is replaced.** A page is rewritten attribute by attribute, and nothing else in it
changes. Each reference to a static file is replaced as a whole, and nothing else, exactly if quotes do
not mislead in any attribute: there is none in the path of a file that a `src` or `href` refers to, and
the text of no other attribute has a reference in it.
-/
theorem rewriteLinks_page (mediaDir : List Char) (page : List Fragment) :
    rewriteLinks mediaDir (write QuotedAttribute.text page) =
        write (fun a => rewriteLinks mediaDir a.text) page ∧
    ((∀ a ∈ attributesOf page, a.IsPlain) →
      rewriteLinks mediaDir (write QuotedAttribute.text page) =
        write (QuotedAttribute.resolved mediaDir) page) ∧
    ((∀ c ∈ mediaDir, isQuote c = false) →
      (rewriteLinks mediaDir (write QuotedAttribute.text page) =
          write (QuotedAttribute.resolved mediaDir) page ↔
        ∀ a ∈ attributesOf page, a.IsPlain)) := by
  have hWrite := rewriteLinks_write mediaDir page (u := []) fun _ hc => absurd hc List.not_mem_nil
  rw [List.nil_append, List.nil_append] at hWrite
  have hResolved (hPlain : ∀ a ∈ attributesOf page, a.IsPlain) :
      rewriteLinks mediaDir (write QuotedAttribute.text page) =
        write (QuotedAttribute.resolved mediaDir) page := by
    rw [hWrite]
    exact write_congr fun a ha => QuotedAttribute.rewriteLinks_of_isPlain mediaDir (hPlain a ha)
  exact ⟨hWrite, hResolved, fun hMedia => ⟨isPlain_of_eq hMedia, hResolved⟩⟩

/-- Quotes of the other kind in a value that refers to nothing are no harm. -/
theorem mixed_quotes_resolved :
    let src : QuotedAttribute := {
      name := "src".toList, quote := '"', value := "/static/a b.png".toList, name_ne_nil := by decide
      name_chars := List.all_eq_true.mp (by decide), isQuote_quote := rfl, value_chars := by simp }
    let alt : QuotedAttribute := {
      name := "alt".toList, quote := '\'', value := "say \"src=\"".toList, name_ne_nil := by decide
      name_chars := List.all_eq_true.mp (by decide), isQuote_quote := rfl, value_chars := by simp }
    let tag : StartTag := {
      name := "img".toList, attributes := [([' '], src), ([], alt)], filler := []
      name_chars := List.all_eq_true.mp (by decide), gaps := by simp [isGap]
      parted := by simp, filler_gap := by simp }
    (∀ a ∈ attributesOf [.tag tag], a.IsPlain) ∧ (∀ c ∈ "media".toList, isQuote c = false) ∧
      rewriteLinks "media".toList "<img src=\"/static/a b.png\"alt='say \"src=\"'>".toList =
        "<img src=\"./media/a_b.png\"alt='say \"src=\"'>".toList := by
  intro src alt tag
  have hPlain : ∀ a ∈ attributesOf [.tag tag], a.IsPlain := by decide
  have hMedia : ∀ c ∈ "media".toList, isQuote c = false := by simp [isQuote]
  exact ⟨hPlain, hMedia, ((rewriteLinks_page _ [.tag tag]).2.2 hMedia).mpr hPlain⟩

/-- An apostrophe in a path ends it, and what is behind it is left over. -/
theorem apostrophe_cuts_value :
    let src : QuotedAttribute := {
      name := "src".toList, quote := '"', value := "/static/it's.png".toList, name_ne_nil := by decide
      name_chars := List.all_eq_true.mp (by decide), isQuote_quote := rfl, value_chars := by simp }
    let tag : StartTag := {
      name := "img".toList, attributes := [([' '], src)], filler := []
      name_chars := List.all_eq_true.mp (by decide), gaps := by simp [isGap]
      parted := by simp, filler_gap := by simp }
    write QuotedAttribute.text [.tag tag] = "<img src=\"/static/it's.png\">".toList ∧
      write (QuotedAttribute.resolved "media".toList) [.tag tag] =
        "<img src=\"./media/it_s.png\">".toList ∧
      rewriteLinks "media".toList "<img src=\"/static/it's.png\">".toList =
        "<img src=\"./media/it\"s.png\">".toList := by
  decide

end Coursebook.Media
