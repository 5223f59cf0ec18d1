import Coursebook.Proofs.Quiz.AnswerKey
import Coursebook.Proofs.Quiz.Likeness

/-!
# Coursebook — questions for a number

The right answer to a question for a number stands in an attribute, as do its tolerance and its unit. A
quiz with such questions is written from names and texts alone, so it tells nothing of them: problems
that differ in their attributes only are written in the same way. What it does tell is how many numbers
are asked for, as each response has a line to itself for its field, and no other line looks like that.

* `answer_never_told` — the quiz does not depend on attributes, and has enough fields.
* `count_fieldLine_problemText` — the fields, counted.
-/

namespace Coursebook.Quiz

open Coursebook.Xml Coursebook.Text

/-- Elements with the same names and texts in the same places, and any attributes. -/
def DifferInAttributes (e e' : Element) : Prop := Element.Alike Eq (fun _ _ => True) e e'

/-- The line of a field for a number. -/
def fieldLine : List Char := "    [[Enter a number]]".toList

/-- The lines of a text. -/
def textLines (text : String) : List (List Char) := text.toList.splitOn '\n'

variable {problem problem' e : Element} {r : Response} {text : String} {line : Line}

/-! ## Lines of a text -/

theorem textLines_intercalate {texts : List String} (h : texts ≠ []) :
    textLines ("\n".intercalate texts) = texts.flatMap textLines := by
  have hSome : texts.map String.toList ≠ [] := by simpa using h
  show (("\n".intercalate texts).toList).splitOn '\n' = _
  rw [String.toList_intercalate]
  exact (splitOn_intercalate_eq_flatMap hSome).trans (List.flatMap_map ..)

theorem textLines_of_not_mem (h : '\n' ∉ text.toList) : textLines text = [text.toList] :=
  splitOn_of_not_mem h

theorem textLines_newline (h : '\n' ∉ text.toList) : textLines (text ++ "\n") = [text.toList, []] := by
  have hEnd : (text ++ "\n").toList = text.toList ++ '\n' :: [] := String.toList_append
  rw [textLines, hEnd, splitOn_append_cons, splitOn_of_not_mem h]
  rfl

/-! ## Lines of a quiz -/

/-- A text that is written word by word is no field: a field is set in. -/
theorem text_ne_fieldLine (e : Element) : e.text.toList ≠ fieldLine := by
  intro h
  have hHead : ∀ c ∈ e.text.toList.head?, (!isBlank c) = true := by
    rw [Element.text, Element.textWithout, String.toList_ofList]
    exact (isSpaced_collapse _).head
  rw [h] at hHead
  exact absurd (hHead ' ' rfl) (by decide)

theorem exists_of_mem_texts {es : List Element} (h : text ∈ texts es) : ∃ e : Element, text = e.text := by
  obtain ⟨e, -, rfl⟩ := List.mem_map.mp (List.mem_filter.mp h).1
  exact ⟨e, rfl⟩

theorem exists_of_mem_promptTexts (h : text ∈ promptTexts problem r) : ∃ e : Element, text = e.text := by
  unfold promptTexts at h
  dsimp only at h
  split at h
  · exact exists_of_mem_texts h
  · rcases List.mem_append.mp h with h | h
    · exact exists_of_mem_texts h
    · exact exists_of_mem_texts h

theorem fieldLine_not_mem_prompt (h : text ∈ promptTexts problem r) :
    fieldLine ∉ textLines (Line.prompt text).render := by
  obtain ⟨e, rfl⟩ := exists_of_mem_promptTexts h
  show fieldLine ∉ textLines (e.text ++ "\n")
  rw [textLines_newline (newline_not_mem_text e)]
  intro hField
  rcases List.mem_cons.mp hField with hText | hEnd
  · exact text_ne_fieldLine e hText.symm
  · exact absurd (List.mem_singleton.mp hEnd) (by decide)

theorem fieldLine_not_mem_hint {hint : String} (h : '\n' ∉ hint.toList) :
    fieldLine ∉ textLines (Line.hint hint).render := by
  have hText : (Line.hint hint).render.toList = "- [[?]] ".toList ++ hint.toList :=
    String.toList_append
  have hLine : '\n' ∉ (Line.hint hint).render.toList := by
    rw [hText, List.mem_append, not_or]
    exact ⟨by decide, h⟩
  rw [textLines_of_not_mem hLine, hText, List.mem_singleton]
  intro hField
  have hFirst : some ' ' = some '-' := congrArg List.head? hField
  exact absurd hFirst (by decide)

theorem textLines_numberField : textLines Line.numberField.render = [fieldLine, []] := by
  decide +kernel

/-! ## Fields of a quiz -/

/-- Each response has one field, whatever stands before and behind it. -/
theorem count_fieldLine_responseLines (problem : Element) (r : Response) :
    (((Kind.responseLines .numberInput problem r).map Line.render).flatMap textLines).count
      fieldLine = 1 := by
  have hPrompts : fieldLine ∉ ((promptLines problem r).map Line.render).flatMap textLines := by
    rw [promptLines, List.map_map, List.flatMap_map, List.mem_flatMap]
    rintro ⟨text, hText, hField⟩
    exact fieldLine_not_mem_prompt hText hField
  have hHints : fieldLine ∉ ((hintLines r.element).map Line.render).flatMap textLines := by
    rw [hintLines, List.map_map, List.flatMap_map, List.mem_flatMap]
    rintro ⟨hint, hHint, hField⟩
    exact fieldLine_not_mem_hint (newline_not_mem_hints hHint) hField
  have hField : ((Kind.answerLines .numberInput r.element).map Line.render).flatMap textLines =
      [fieldLine, []] := by
    show textLines Line.numberField.render ++ [] = _
    rw [textLines_numberField]
    rfl
  rw [Kind.responseLines, List.map_append, List.map_append, List.flatMap_append,
    List.flatMap_append, List.count_append, List.count_append, List.count_eq_zero.mpr hPrompts,
    List.count_eq_zero.mpr hHints, hField]
  decide

theorem count_fieldLine_responses (problem : Element) (rs : List Response) :
    (((rs.flatMap (Kind.responseLines .numberInput problem)).map Line.render).flatMap
      textLines).count fieldLine = rs.length := by
  induction rs with
  | nil => rfl
  | cons r rs ih =>
    rw [List.flatMap_cons, List.map_append, List.flatMap_append, List.count_append, ih,
      count_fieldLine_responseLines, List.length_cons]
    omega

/-- A quiz with questions for a number has as many fields as there are responses that ask for one, at
any depth. -/
theorem count_fieldLine_problemText (problem : Element) (displayName : String) :
    (textLines (problemText .numberInput problem displayName)).count fieldLine =
      (problem.preorder.filter (·.name == "numericalresponse")).length := by
  let quiz := Kind.lines .numberInput problem displayName
  have hLines : quiz = (responses problem "numericalresponse").flatMap
      (Kind.responseLines .numberInput problem) := Kind.lines?_eq rfl
  have hQuiz : (textLines (render quiz)).count fieldLine =
      (responses problem "numericalresponse").length := by
    rw [← count_fieldLine_responses problem, ← hLines, render]
    by_cases hNone : quiz = []
    · -- nothing at all is written as one empty line
      rw [hNone]
      decide
    · rw [textLines_intercalate (by simpa using hNone)]
  have hDemand : fieldLine ∉
      ((demandHints problem).map fun h => (Line.hint h).render).flatMap textLines := by
    rw [List.flatMap_map, List.mem_flatMap]
    rintro ⟨hint, hHint, hField⟩
    exact fieldLine_not_mem_hint (newline_not_mem_demandHints hHint) hField
  rw [problemText_eq, textLines_intercalate (List.cons_ne_nil _ _), List.flatMap_cons,
    List.count_append, List.count_eq_zero.mpr hDemand, hQuiz, ← responses_map_element,
    List.length_map, Nat.add_zero]

/-! ## Answers -/

/-- Problems that differ in their attributes are of the same kind. Where that is a question for a
number, they are written in the same way, under whatever name, with at least as many fields as there are
responses below the problem that ask for a number. -/
theorem answer_never_told (h : DifferInAttributes problem problem') :
    Kind.ofProblem problem' = Kind.ofProblem problem ∧
      (Kind.ofProblem problem = .numberInput → ∀ displayName displayName' : String,
        problemText .numberInput problem' displayName' =
            problemText .numberInput problem displayName ∧
          (problem.descendants.filter (·.name == "numericalresponse")).length ≤
            (textLines (problemText .numberInput problem displayName)).count fieldLine) := by
  refine ⟨(Kind.ofProblem_alike h).symm, fun _ displayName displayName' => ⟨?_, ?_⟩⟩
  · -- the name is shown with problems that cannot be written as a quiz only
    have hName : problemText .numberInput problem' displayName' =
        problemText .numberInput problem' displayName := rfl
    rw [hName]
    exact (problemText_alike isLayout_eq h (fun _ _ _ => rfl) displayName).symm
  · rw [count_fieldLine_problemText]
    exact ((List.sublist_cons_self problem problem.descendants).filter _).length_le

/-- Two questions for a number, the second one inside of the first one. -/
def nestedNumbers (first tolerance second : String) : Element where
  name := "problem"
  attributes := [("display_name", first)]
  content := [.element "p" [] [.text "How many\n are there?"],
    .element "numericalresponse" [("answer", first)]
      [.element "responseparam" [("type", "tolerance"), ("default", tolerance)] [],
        .element "div" [] [.element "numericalresponse" [("answer", second)]
          [.element "label" [("for", second)] [.text "And here?"]]]]]

/-- The questions with other answers: what is written is the same, with a field for each. -/
theorem nestedNumbers_untold :
    let problem := nestedNumbers "42" "5%" "7"
    let problem' := nestedNumbers "-1e3" "" "0.5"
    DifferInAttributes problem problem' ∧ Kind.ofProblem problem = .numberInput ∧
      problemText .numberInput problem' "B" = problemText .numberInput problem "A" ∧
      (problem.descendants.filter (·.name == "numericalresponse")).length = 2 ∧
      2 ≤ (textLines (problemText .numberInput problem "A")).count fieldLine := by
  intro problem problem'
  have hDiffer : DifferInAttributes problem problem' :=
    ⟨rfl, trivial, .cons (.element _ trivial (.cons (.text rfl) .nil)) (.cons (.element _ trivial
      (.cons (.element _ trivial .nil) (.cons (.element _ trivial (.cons (.element _ trivial
        (.cons (.element _ trivial (.cons (.text rfl) .nil)) .nil)) .nil)) .nil))) .nil)⟩
  have hKind : Kind.ofProblem problem = .numberInput := by decide +kernel
  obtain ⟨hSame, hFields⟩ := (answer_never_told hDiffer).2 hKind "A" "B"
  exact ⟨hDiffer, hKind, hSame, by decide +kernel, hFields⟩

end Coursebook.Quiz
