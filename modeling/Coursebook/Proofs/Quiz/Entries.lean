import Coursebook.Proofs.Quiz.Lines
import Coursebook.Proofs.Text.Split
import Coursebook.Proofs.Text.Words

/-!
# Coursebook — entries between bars

The entries of a list that drops down are written with bars between them, the right ones in brackets,
and so are the answers of a field for text, without brackets. Nothing marks a bar or a bracket that
belongs to an entry. What is written therefore tells the pieces between the bars that stand alone, and
nothing else: neither which of them belong together, nor whose the brackets are.

* `barred_eq_iff` — texts with bars between them.
* `entries_told_iff` — when two lists, or two fields, are written in the same way, and entries for
  which that makes them the same.
* `bar_inside_entry` — entries that cannot be told apart.
-/

namespace Coursebook.Quiz

open Coursebook.Xml

/-! ## Bars -/

/-- The pieces of a text between bars that stand alone, each as what there is between single spaces. -/
def barPieces (text : String) : List (List (List Char)) :=
  (text.toList.splitOn ' ').splitOn ['|']

/-- Whether a bar stands alone in a text. -/
def HasBar (text : String) : Prop := ['|'] ∈ text.toList.splitOn ' '

instance (text : String) : Decidable (HasBar text) :=
  inferInstanceAs (Decidable (['|'] ∈ text.toList.splitOn ' '))

variable {texts texts' : List String} {text : String}

theorem barPieces_of_not_hasBar (h : ¬ HasBar text) : barPieces text = [text.toList.splitOn ' '] :=
  Text.splitOn_of_not_mem h

theorem flatMap_barPieces_eq_nil_iff : texts.flatMap barPieces = [] ↔ texts = [] := by
  constructor
  · intro h
    cases texts with
    | nil => rfl
    | cons text r =>
      rw [List.flatMap_cons, List.append_eq_nil_iff] at h
      exact absurd h.1 (List.splitOn_ne_nil _ _)
  · rintro rfl
    rfl

/-- Cut at the spaces, texts with bars between them are what the texts are cut to, and the bars. -/
theorem splitOn_space_barred (h : texts ≠ []) :
    (" | ".intercalate texts).toList.splitOn ' ' =
      [['|']].intercalate (texts.map fun text => text.toList.splitOn ' ') := by
  rw [String.toList_intercalate]
  show ([' ', '|', ' '].intercalate _).splitOn ' ' = _
  induction texts with
  | nil => exact absurd rfl h
  | cons text r ih =>
    cases r with
    | nil => rw [List.map_singleton, List.map_singleton, List.intercalate_singleton,
        List.intercalate_singleton]
    | cons text' r =>
      -- a space on either side keeps the bar apart from both texts
      have hBar (s : List Char) : ([' ', '|', ' '] ++ s) = ' ' :: (['|'] ++ ' ' :: s) := rfl
      have hAlone : ['|'].splitOn ' ' = [['|']] := rfl
      rw [List.map_cons, List.map_cons, List.map_cons, List.intercalate_cons_cons,
        List.append_assoc, hBar, Text.splitOn_append_cons, Text.splitOn_append_cons, hAlone,
        ← List.map_cons, ih (List.cons_ne_nil text' r), List.map_cons, List.intercalate_cons_cons,
        List.append_assoc]

theorem barPieces_barred (h : texts ≠ []) :
    barPieces (" | ".intercalate texts) = texts.flatMap barPieces := by
  have hSome : (texts.map fun text => text.toList.splitOn ' ') ≠ [] := by simpa using h
  rw [barPieces, splitOn_space_barred h, Text.splitOn_intercalate_eq_flatMap hSome,
    List.flatMap_map]
  rfl

/-- Texts with bars between them read the same exactly if the pieces between bars are the same. -/
theorem barred_eq_iff (h : texts ≠ []) (h' : texts' ≠ []) :
    " | ".intercalate texts = " | ".intercalate texts' ↔
      texts.flatMap barPieces = texts'.flatMap barPieces := by
  rw [← barPieces_barred h, ← barPieces_barred h', barPieces, barPieces, Text.splitOn_inj,
    Text.splitOn_inj, String.toList_inj]

/-- Texts in which no bar stands alone are pieces themselves. -/
theorem eq_of_flatMap_barPieces_eq (hBar : ∀ text ∈ texts, ¬ HasBar text)
    (hBar' : ∀ text ∈ texts', ¬ HasBar text)
    (h : texts.flatMap barPieces = texts'.flatMap barPieces) : texts = texts' := by
  have hPieces {ts : List String} (hBar : ∀ text ∈ ts, ¬ HasBar text) :
      ts.flatMap barPieces = ts.map fun text => text.toList.splitOn ' ' := by
    rw [List.flatMap_congr fun text hText => barPieces_of_not_hasBar (hBar text hText),
      List.map_eq_flatMap]
  rw [hPieces hBar, hPieces hBar'] at h
  refine List.map_injective_iff.mpr (fun text text' hSame => ?_) h
  exact String.toList_inj.mp (Text.splitOn_inj.mp hSame)

/-! ## What is written for a response -/

/-- What is written for a response to answer, line by line. -/
def Kind.answerTexts (kind : Kind) (response : Element) : List String :=
  (kind.answerLines response).map Line.render

variable (r r' : Element)

/-- The entries of a list as they are written. -/
def optionTexts (response : Element) : List String := (options response).map optionText

theorem answerTexts_selection : Kind.answerTexts .selection r =
    if optionTexts r = [] then [] else ["[[ " ++ " | ".intercalate (optionTexts r) ++ " ]]"] := by
  unfold Kind.answerTexts Kind.answerLines optionTexts
  dsimp only
  split
  · next hNone => rw [hNone]; rfl
  · next hSome =>
    rw [if_neg (by simpa using hSome)]
    rfl

theorem answerTexts_selection_eq_iff :
    Kind.answerTexts .selection r = Kind.answerTexts .selection r' ↔
      (optionTexts r).flatMap barPieces = (optionTexts r').flatMap barPieces := by
  rw [answerTexts_selection, answerTexts_selection]
  -- a list without entries is not written at all, and any other one is
  by_cases h : optionTexts r = []
  · rw [if_pos h, h, List.flatMap_nil, eq_comm (a := []), eq_comm (a := []),
      flatMap_barPieces_eq_nil_iff]
    simp
  · by_cases h' : optionTexts r' = []
    · rw [if_pos h', h', List.flatMap_nil, flatMap_barPieces_eq_nil_iff]
      simp [h]
    · rw [if_neg h, if_neg h', List.singleton_inj, String.append_left_inj, String.append_right_inj,
        barred_eq_iff h h']

theorem answerTexts_textInput : Kind.answerTexts .textInput r =
    ["\n    [[" ++ (if acceptedAnswers r = [] then " " else " | ".intercalate (acceptedAnswers r)) ++
      "]]\n"] := by
  unfold Kind.answerTexts Kind.answerLines
  cases acceptedAnswers r with
  | nil => rfl
  | cons answer others => rw [if_neg (List.cons_ne_nil answer others)]; rfl

/-- An answer has no blank at its end. -/
theorem answer_ne_blank {answer : String} (h : answer ∈ acceptedAnswers r) : answer ≠ " " := by
  rintro rfl
  obtain ⟨text, -, hTrim⟩ := List.mem_map.mp (List.mem_filter.mp h).1
  have hLast : (Text.trim text.toList).getLast? = some ' ' := by
    rw [← String.toList_ofList (l := Text.trim text.toList)]
    show text.trimBlanks.toList.getLast? = _
    rw [hTrim]
    rfl
  exact absurd (Text.not_of_getLast?_dropEndWhile hLast) (by decide)

/-- A field without answers is written as no answers are. -/
theorem barred_answers_ne_blank (h : acceptedAnswers r ≠ []) :
    " | ".intercalate (acceptedAnswers r) ≠ " " := by
  intro hBlank
  cases hAnswers : acceptedAnswers r with
  | nil => exact h hAnswers
  | cons answer others =>
    cases others with
    | nil =>
      rw [hAnswers, String.intercalate_singleton] at hBlank
      exact answer_ne_blank r (hAnswers ▸ List.mem_cons_self) hBlank
    | cons other others =>
      -- a bar between two answers is too long
      rw [hAnswers, String.intercalate_cons_cons] at hBlank
      have hLength := congrArg String.length hBlank
      simp only [String.length_append] at hLength
      have hBar : " | ".length = 3 := rfl
      have hOne : " ".length = 1 := rfl
      omega

theorem answerTexts_textInput_eq_iff :
    Kind.answerTexts .textInput r = Kind.answerTexts .textInput r' ↔
      (acceptedAnswers r).flatMap barPieces = (acceptedAnswers r').flatMap barPieces := by
  rw [answerTexts_textInput, answerTexts_textInput, List.singleton_inj, String.append_left_inj,
    String.append_right_inj]
  -- a field without answers is written with a blank, which no answers are written as
  by_cases h : acceptedAnswers r = []
  · rw [if_pos h, h, List.flatMap_nil, eq_comm (a := []), flatMap_barPieces_eq_nil_iff]
    by_cases h' : acceptedAnswers r' = []
    · rw [if_pos h']
      simp [h']
    · rw [if_neg h']
      simp [h', (barred_answers_ne_blank r' h').symm]
  · by_cases h' : acceptedAnswers r' = []
    · rw [if_pos h', h', List.flatMap_nil, flatMap_barPieces_eq_nil_iff, if_neg h]
      simp [h, barred_answers_ne_blank r h]
    · rw [if_neg h, if_neg h', barred_eq_iff h h']

/-! ## Entries that can be told apart -/

/-- Whether an entry of a list can be told from others: no bar stands alone in it, and it is not a wrong
one in the brackets of a right one. -/
def IsPlainOption (option : String × Bool) : Prop :=
  ¬ HasBar option.1 ∧ ∀ text, option ≠ (optionText (text, true), false)

theorem hasBar_optionText (option : String × Bool) : HasBar (optionText option) ↔ HasBar option.1 := by
  obtain ⟨text, correct⟩ := option
  cases correct with
  | false => rfl
  | true =>
    -- the brackets stand alone as well
    have hText : (optionText (text, true)).toList = ['('] ++ ' ' :: (text.toList ++ ' ' :: [')']) := by
      show ("( " ++ text ++ " )").toList = _
      rw [String.toList_append, String.toList_append, List.append_assoc]
      rfl
    have hOpen : ['('].splitOn ' ' = [['(']] := rfl
    have hClose : [')'].splitOn ' ' = [[')']] := rfl
    unfold HasBar
    rw [hText, Text.splitOn_append_cons, Text.splitOn_append_cons, hOpen, hClose]
    simp

theorem optionText_inj {option option' : String × Bool} (h : IsPlainOption option)
    (h' : IsPlainOption option') (hText : optionText option = optionText option') :
    option = option' := by
  obtain ⟨text, correct⟩ := option
  obtain ⟨text', correct'⟩ := option'
  -- a right entry reads like a wrong one only if the wrong one has the brackets in its text
  cases correct with
  | false =>
    cases correct' with
    | false => exact congrArg (·, false) hText
    | true => exact absurd (congrArg (·, false) hText) (h.2 text')
  | true =>
    cases correct' with
    | false => exact absurd (congrArg (·, false) hText.symm) (h'.2 text)
    | true =>
      have hText : "( " ++ text ++ " )" = "( " ++ text' ++ " )" := hText
      rw [String.append_left_inj, String.append_right_inj] at hText
      rw [hText]

theorem eq_of_map_optionText {options options' : List (String × Bool)}
    (h : ∀ o ∈ options, IsPlainOption o) (h' : ∀ o ∈ options', IsPlainOption o)
    (hTexts : options.map optionText = options'.map optionText) : options = options' := by
  induction options generalizing options' with
  | nil => exact (List.map_eq_nil_iff.mp hTexts.symm).symm
  | cons option r ih =>
    cases options' with
    | nil => cases hTexts
    | cons option' r' =>
      rw [List.map_cons, List.map_cons, List.cons.injEq] at hTexts
      rw [List.forall_mem_cons] at h h'
      rw [optionText_inj h.1 h'.1 hTexts.1, ih h.2 h'.2 hTexts.2]

/--
**What a list that drops down, or a field for text, tells.** Two of them are written in the same way
exactly if their entries, as they are written, have the same pieces between bars. So different entries
are written differently unless a bar stands alone in one of them, or a wrong one is in brackets.
-/
theorem entries_told_iff (r r' : Element) :
    ((Kind.answerTexts .selection r = Kind.answerTexts .selection r' ↔
      (optionTexts r).flatMap barPieces = (optionTexts r').flatMap barPieces) ∧
    ((∀ option ∈ options r ++ options r', IsPlainOption option) → options r ≠ options r' →
      Kind.answerTexts .selection r ≠ Kind.answerTexts .selection r')) ∧
    (Kind.answerTexts .textInput r = Kind.answerTexts .textInput r' ↔
      (acceptedAnswers r).flatMap barPieces = (acceptedAnswers r').flatMap barPieces) ∧
    ((∀ answer ∈ acceptedAnswers r ++ acceptedAnswers r', ¬ HasBar answer) →
      acceptedAnswers r ≠ acceptedAnswers r' →
      Kind.answerTexts .textInput r ≠ Kind.answerTexts .textInput r') := by
  refine ⟨⟨answerTexts_selection_eq_iff r r', fun hPlain hDiffer hSame => ?_⟩,
    answerTexts_textInput_eq_iff r r', fun hPlain hDiffer hSame => ?_⟩
  · -- the written entries are told by their pieces, and the entries by how they are written
    rw [List.forall_mem_append] at hPlain
    have hBars {options : List (String × Bool)} (hPlain : ∀ option ∈ options, IsPlainOption option) :
        ∀ text ∈ options.map optionText, ¬ HasBar text := by
      intro text hText
      obtain ⟨option, hOption, rfl⟩ := List.mem_map.mp hText
      rw [hasBar_optionText]
      exact (hPlain option hOption).1
    refine hDiffer (eq_of_map_optionText hPlain.1 hPlain.2 ?_)
    exact eq_of_flatMap_barPieces_eq (hBars hPlain.1) (hBars hPlain.2)
      ((answerTexts_selection_eq_iff r r').mp hSame)
  · rw [List.forall_mem_append] at hPlain
    exact hDiffer (eq_of_flatMap_barPieces_eq hPlain.1 hPlain.2
      ((answerTexts_textInput_eq_iff r r').mp hSame))

/-- Two lists with the same texts, of which another one is right, and two fields of which one accepts
more: they are written differently. -/
theorem marks_and_answers_told :
    let list (first second : String) : Element := ⟨"optionresponse", [], [.element "optioninput" []
      [.element "option" [("correct", first)] [.text "sharp (#)"],
        .element "option" [("correct", second)] [.text "flat |b|"]]]⟩
    let field (more : List Item) : Element := ⟨"stringresponse", [("answer", "a|b")], more⟩
    let wider := field [.element "additional_answer" [("answer", "( c )")] []]
    Kind.answerTexts .selection (list "true" "false") ≠
        Kind.answerTexts .selection (list "false" "true") ∧
      Kind.answerTexts .textInput (field []) ≠ Kind.answerTexts .textInput wider := by
  intro list field wider
  refine ⟨(entries_told_iff _ _).1.2 ?_ (by decide +kernel),
    (entries_told_iff _ _).2.2 (by decide +kernel) (by decide +kernel)⟩
  have hOptions : options (list "true" "false") ++ options (list "false" "true") =
      [("sharp (#)", true), ("flat |b|", false), ("sharp (#)", false), ("flat |b|", true)] := by
    decide +kernel
  intro option hOption
  refine ⟨?_, fun text hText => ?_⟩
  · rw [hOptions] at hOption
    revert option
    decide +kernel
  · -- neither text starts with a bracket
    have hFirst : option.1.toList.head? ≠ some '(' := by
      rw [hOptions] at hOption
      clear hText
      revert option
      decide +kernel
    rw [hText] at hFirst
    refine hFirst ?_
    show ("( " ++ text ++ " )").toList.head? = _
    rw [String.toList_append, String.toList_append]
    rfl

/-- A bar in an entry, and brackets around a wrong one: what is written is the same as for other
entries. -/
theorem bar_inside_entry :
    let list (entries : List (String × String)) : Element :=
      ⟨"optionresponse", [], [.element "optioninput" [] (entries.map fun (correct, text) =>
        .element "option" [("correct", correct)] [.text text])]⟩
    let field (answer : String) (more : List String) : Element :=
      ⟨"stringresponse", [("answer", answer)], more.map fun text =>
        .element "additional_answer" [] [.text text]⟩
    (options (list [("false", "a | b")]) ≠ options (list [("false", "a"), ("false", "b")]) ∧
      Kind.answerTexts .selection (list [("false", "a | b")]) =
        Kind.answerTexts .selection (list [("false", "a"), ("false", "b")])) ∧
    (options (list [("false", "( a )")]) ≠ options (list [("true", "a")]) ∧
      Kind.answerTexts .selection (list [("false", "( a )")]) =
        Kind.answerTexts .selection (list [("true", "a")])) ∧
    acceptedAnswers (field "a | b" []) ≠ acceptedAnswers (field "a" ["b"]) ∧
      Kind.answerTexts .textInput (field "a | b" []) =
        Kind.answerTexts .textInput (field "a" ["b"]) := by
  decide +kernel

end Coursebook.Quiz
