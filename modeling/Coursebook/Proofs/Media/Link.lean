import Coursebook.Media.Link
import Coursebook.Proofs.Media.Copies
import Coursebook.Proofs.Text.Percent

/-!
# Coursebook — links and the copies they lead to

A page refers to a static file by its path or, as a URL asks for, by the percent-encoded path. The
link is rewritten to a name in the media directory, and the copy of the file gets a name there by its
path alone: `LinksTo` says which name a link gets, whatever stands behind it in the page.

* `linksTo_mediaName` — the name that a path in a page is rewritten to.
* `link_names_copy` — links and copies agree for a path as it is, and for the encoded path unless an
  escape stands in the path itself.
* `escaped_name_differs` — a file with an escape in its name.
-/

namespace Coursebook.Media

open Coursebook.Files Coursebook.Text

/-! ## Rewriting one link -/

/-- An attribute that refers to a static file by a path, between two quotes. -/
def linkText (attr : LinkAttribute) (opening closing : Char) (path : List Char) : List Char :=
  attr.name ++ '=' :: opening :: (staticRoot ++ path ++ [closing])

/-- An attribute that refers to a name in the media directory. -/
def mediaLink (attr : LinkAttribute) (mediaDir name : List Char) : List Char :=
  attr.name ++ "=\"./".toList ++ mediaDir ++ '/' :: name ++ ['"']

/-- Every link to a static file by a path is rewritten to one with a name, and the rest of the page
is rewritten as it is by itself. -/
def LinksTo (mediaDir path name : List Char) : Prop :=
  ∀ attr opening closing rest, isQuote opening = true → isQuote closing = true →
    rewriteLinks mediaDir (linkText attr opening closing path ++ rest) =
      mediaLink attr mediaDir name ++ rewriteLinks mediaDir rest

theorem after?_append (lead s : List Char) : after? lead (lead ++ s) = some s := by
  simp [after?]

/-- Up to the first quote a text is the path of a link. -/
theorem span_quote {path : List Char} (hPath : ∀ c ∈ path, isQuote c = false) {closing : Char}
    (hClosing : isQuote closing = true) (rest : List Char) :
    (path ++ closing :: rest).takeWhile (fun c => !isQuote c) = path ∧
      (path ++ closing :: rest).dropWhile (fun c => !isQuote c) = closing :: rest := by
  induction path with
  | nil => simp [hClosing]
  | cons c path ih =>
    obtain ⟨hc, hPath⟩ := List.forall_mem_cons.mp hPath
    obtain ⟨hTake, hDrop⟩ := ih hPath
    simp [hc, hTake, hDrop]

theorem linkValue?_path {path : List Char} (hNonempty : path ≠ [])
    (hPath : ∀ c ∈ path, isQuote c = false) {opening closing : Char}
    (hOpening : isQuote opening = true) (hClosing : isQuote closing = true) (attr : LinkAttribute)
    (rest : List Char) :
    linkValue? attr ('=' :: opening :: (staticRoot ++ (path ++ closing :: rest))) =
      some ⟨attr, path, rest⟩ := by
  obtain ⟨hTake, hDrop⟩ := span_quote hPath hClosing rest
  have hValue := after?_append ['='] (opening :: (staticRoot ++ (path ++ closing :: rest)))
  have hRoot := after?_append staticRoot (path ++ closing :: rest)
  have hSome : path.isEmpty = false := by simpa using hNonempty
  rw [List.singleton_append] at hValue
  simp only [linkValue?, hValue, hRoot, hOpening, hTake, hDrop, hSome, guard, Option.bind_eq_bind,
    Option.bind_some, Bool.not_false, if_true]
  rfl

/-- A link is recognised by the name of its attribute; the two names begin differently. -/
theorem link?_linkText {path : List Char} (hNonempty : path ≠ [])
    (hPath : ∀ c ∈ path, isQuote c = false) {opening closing : Char}
    (hOpening : isQuote opening = true) (hClosing : isQuote closing = true) (attr : LinkAttribute)
    (rest : List Char) :
    link? (linkText attr opening closing path ++ rest) = some ⟨attr, path, rest⟩ := by
  have hValue := linkValue?_path hNonempty hPath hOpening hClosing attr rest
  have hText : linkText attr opening closing path ++ rest =
      attr.name ++ '=' :: opening :: (staticRoot ++ (path ++ closing :: rest)) := by
    simp [linkText]
  rw [hText, link?]
  cases attr with
  | src =>
    rw [after?_append]
    exact hValue
  | href =>
    have hSrc : after? LinkAttribute.src.name (LinkAttribute.href.name ++
        '=' :: opening :: (staticRoot ++ (path ++ closing :: rest))) = none := by
      simp [after?, LinkAttribute.name, List.isPrefixOf]
    rw [hSrc, after?_append]
    exact hValue

/-- What belongs to a link that has been written is passed over. -/
theorem rewriteFrom_skip (mediaDir : List Char) {n : Nat} {s : List Char} (hn : n ≤ s.length) :
    rewriteFrom mediaDir n s = rewriteFrom mediaDir 0 (s.drop n) := by
  induction n generalizing s with
  | zero => rfl
  | succ n ih =>
    cases s with
    | nil => simp at hn
    | cons c s =>
      rw [rewriteFrom, List.drop_succ_cons]
      exact ih (Nat.le_of_succ_le_succ hn)

/-- A path in a page is rewritten to its media name. -/
theorem linksTo_mediaName (mediaDir : List Char) {path : List Char} (hNonempty : path ≠ [])
    (hPath : ∀ c ∈ path, isQuote c = false) : LinksTo mediaDir path (mediaName path) := by
  intro attr opening closing rest hOpening hClosing
  have hLink := link?_linkText hNonempty hPath hOpening hClosing attr rest
  obtain ⟨c, r, hText⟩ : ∃ c r, linkText attr opening closing path = c :: r := by
    cases attr <;> exact ⟨_, _, rfl⟩
  rw [hText, List.cons_append] at hLink ⊢
  rw [rewriteLinks, rewriteFrom, hLink]
  dsimp only
  -- past the first character there is the rest of the link, which is as long as it is
  have hLength : (r ++ rest).length - rest.length = r.length := by simp
  rw [hLength, rewriteFrom_skip mediaDir (by simp), List.drop_left]
  rfl

/-- A link gets one name. -/
theorem LinksTo.unique {mediaDir path name name' : List Char} (h : LinksTo mediaDir path name)
    (h' : LinksTo mediaDir path name') : name = name' := by
  have hText := (h .src '"' '"' [] rfl rfl).symm.trans (h' .src '"' '"' [] rfl rfl)
  simpa [mediaLink] using hText

/-! ## Encoded paths -/

theorem percentEncode_ne_nil {path : List Char} (h : path ≠ []) : percentEncode path ≠ [] := by
  obtain ⟨c, r, rfl⟩ := List.exists_cons_of_ne_nil h
  intro hNil
  have hFirst : (if isUrlPathChar c then [c] else (utf8Octets c).flatMap percentEscape) = [] :=
    (List.append_eq_nil_iff.mp (List.flatMap_cons.symm.trans hNil)).1
  split at hFirst
  · cases hFirst
  · have hOctets := List.flatMap_eq_nil_iff.mp hFirst
    have hSome : utf8Octets c ≠ [] := String.utf8EncodeChar_ne_nil
    obtain ⟨b, bs, hb⟩ := List.exists_cons_of_ne_nil hSome
    cases hOctets b (hb ▸ List.mem_cons_self)

theorem upperHexDigit_not_quote : ∀ n < 16, isQuote (upperHexDigit n) = false := by decide

theorem isUrlPathChar_of_quote {c : Char} (h : isQuote c = true) : isUrlPathChar c = false := by
  rw [isQuote, Bool.or_eq_true, decide_eq_true_eq, decide_eq_true_eq] at h
  rcases h with rfl | rfl <;> decide

/-- No quote stands in an encoded path. -/
theorem percentEncode_not_quote {path : List Char} {c : Char} (h : c ∈ percentEncode path) :
    isQuote c = false := by
  rcases mem_percentEncode h with hPlain | rfl | ⟨n, hn, rfl⟩
  · cases hQuote : isQuote c with
    | false => rfl
    | true => exact absurd hPlain (by simp [isUrlPathChar_of_quote hQuote])
  · decide
  · exact upperHexDigit_not_quote n hn

/-- In a link by an encoded path, decoding goes back to the path and no further. -/
theorem mediaName_percentEncode (path : List Char) :
    mediaName (percentEncode path) = sanitize (dropQuery path) := by
  rw [mediaName, percentDecode_percentEncode]

/-! ## Links and copies -/

/-- The path of a static file, as it is written below the static directory. -/
def staticText (names : List String) : List Char := ("/".intercalate names).toList

theorem copyName_toList (names : List String) :
    (copyName names).toList = mediaName (staticText names) := String.toList_ofList

theorem staticText_ne_nil {names : List String} (hNonempty : names ≠ [])
    (hNames : ∀ n ∈ names, IsName n) : staticText names ≠ [] := by
  obtain ⟨n, r, rfl⟩ := List.exists_cons_of_ne_nil hNonempty
  intro hNil
  have hRead := Path.namesOf_intercalate hNames
  have hEmpty : "/".intercalate (n :: r) = "" := String.toList_eq_nil_iff.mp hNil
  rw [hEmpty] at hRead
  cases hRead

/-- The copy of a static file, where one is made, has its name by the path of the file alone. -/
theorem copyFiles_name {source target : Path} {names copies : List String} {w w' : World}
    (h : (copyFiles source target [names]).run w = (.ok copies, w')) :
    ∀ name ∈ copies, name = copyName names := by
  rw [copyFiles_cons_run] at h
  split at h
  · cases h
  · cases h
    simp
  · split at h
    · cases h
      simp
    · cases h
      simp

/--
**Links lead to copies.** A link that refers to a static file by its path is rewritten to the name
that the copy of the file gets. A link by the percent-encoded path is, exactly if decoding the path
itself makes no difference to that name; so it is where no escape stands in the path. Whatever is
copied, the copy has that name.
-/
theorem link_names_copy (mediaDir : List Char) {names : List String} (hNonempty : names ≠ [])
    (hNames : ∀ n ∈ names, IsName n) (hQuote : ∀ c ∈ staticText names, isQuote c = false) :
    LinksTo mediaDir (staticText names) (copyName names).toList ∧
    (LinksTo mediaDir (percentEncode (staticText names)) (copyName names).toList ↔
      sanitize (dropQuery (staticText names)) =
        sanitize (dropQuery (percentDecode (staticText names)))) ∧
    (¬ HasEscape (staticText names) →
      LinksTo mediaDir (percentEncode (staticText names)) (copyName names).toList) ∧
    ∀ source target w copies w', (copyFiles source target [names]).run w = (.ok copies, w') →
      ∀ name ∈ copies, name = copyName names := by
  have hText := staticText_ne_nil hNonempty hNames
  have hEncoded : LinksTo mediaDir (percentEncode (staticText names))
      (sanitize (dropQuery (staticText names))) := by
    rw [← mediaName_percentEncode]
    exact linksTo_mediaName mediaDir (percentEncode_ne_nil hText) fun c => percentEncode_not_quote
  have hAgree : LinksTo mediaDir (percentEncode (staticText names)) (copyName names).toList ↔
      sanitize (dropQuery (staticText names)) =
        sanitize (dropQuery (percentDecode (staticText names))) := by
    rw [copyName_toList]
    constructor
    · intro h
      exact hEncoded.unique h
    · intro h
      rw [h] at hEncoded
      exact hEncoded
  refine ⟨?_, hAgree, fun hEscape => hAgree.mpr ?_, fun _ _ _ _ _ => copyFiles_name⟩
  · rw [copyName_toList]
    exact linksTo_mediaName mediaDir hText hQuote
  · rw [percentDecode_of_no_escape hEscape]

/-- A path with blanks, letters of other scripts and the mark that begins a query. -/
theorem question_path_linked :
    let names := ["bilder ü", "a?b.png"]
    LinksTo "media".toList (percentEncode (staticText names)) (copyName names).toList := by
  intro names
  have hNames : ∀ n ∈ names, IsName n := by decide
  have hQuote : ∀ c ∈ staticText names, isQuote c = false := by
    have hNone : (staticText names).any isQuote = false := by decide
    simpa using hNone
  have hPercent : '%' ∉ staticText names := by decide
  refine (link_names_copy "media".toList (by decide) hNames hQuote).2.2.1 ?_
  rintro ⟨a, b, -, -, hIn⟩
  exact hPercent (hIn.subset List.mem_cons_self)

/-- A file that is called by what looks like an encoded name: its copy is named as if it were one,
and a link by its path, properly encoded, gets another name. -/
theorem escaped_name_differs :
    let names := ["a%20b.png"]
    ¬ LinksTo "media".toList (percentEncode (staticText names)) (copyName names).toList := by
  intro names
  have hEncoded : LinksTo "media".toList (percentEncode (staticText names))
      (mediaName (percentEncode (staticText names))) :=
    linksTo_mediaName _ (percentEncode_ne_nil (by decide)) fun c => percentEncode_not_quote
  intro hCopy
  exact absurd (hEncoded.unique hCopy) (by decide)

end Coursebook.Media
