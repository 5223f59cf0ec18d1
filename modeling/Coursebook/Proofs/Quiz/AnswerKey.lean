import Coursebook.Proofs.Quiz.Choices
import Coursebook.Proofs.Text.Split

/-!
# Coursebook — the key of a quiz

In the written form of a quiz with choices, the lines that start with a box are its key: which answers
there are, and which of them are right. A choice is one such line, a hint is none, and whatever stands
in their texts, they stay one line each. The pieces of a question are written as they are, so one that
starts with a box is taken for a choice.

* `keyLines_intercalate` — the key is that of the lines it is written from.
* `key_of_choices` — the key of a quiz, and when it is that of the problem.
* `question_taken_for_choice` — a question that adds to the key.
-/

namespace Coursebook.Quiz

open Coursebook.Xml

/-- The beginnings of lines with an answer to tick. -/
def boxes : List String := ["- [[X]] ", "- [[ ]] ", "- [(X)] ", "- [( )] "]

/-- Whether a line starts with a box to tick. -/
def startsWithBox (line : List Char) : Bool := boxes.any fun box => box.toList.isPrefixOf line

/-- The lines of a text that start with a box to tick. -/
def keyLines (text : String) : List (List Char) :=
  (text.toList.splitOn '\n').filter startsWithBox

/-! ## One text -/

/-- The key of lines that are written one below the other. -/
theorem keyLines_intercalate (texts : List String) :
    keyLines ("\n".intercalate texts) = texts.flatMap keyLines := by
  by_cases h : texts = []
  · subst h
    rfl
  · have hSome : texts.map String.toList ≠ [] := by simpa using h
    have hNewline : "\n".toList = ['\n'] := rfl
    rw [keyLines, String.toList_intercalate, hNewline, Text.splitOn_intercalate_eq_flatMap hSome,
      List.flatMap_map, List.filter_flatMap]
    rfl

theorem keyLines_of_not_mem {text : String} (h : '\n' ∉ text.toList) :
    keyLines text = [text.toList].filter startsWithBox := by
  rw [keyLines, Text.splitOn_of_not_mem h]

theorem newline_not_mem_text (e : Element) : '\n' ∉ e.text.toList := by
  rw [Element.text, Element.textWithout, String.toList_ofList]
  exact Text.newline_not_mem_collapse _

theorem newline_not_mem_texts {elements : List Element} {text : String} (h : text ∈ texts elements) :
    '\n' ∉ text.toList := by
  obtain ⟨e, -, rfl⟩ := List.mem_map.mp (List.mem_filter.mp h).1
  exact newline_not_mem_text e

theorem newline_not_mem_hints {e : Element} {hint : String} (h : hint ∈ hints e) :
    '\n' ∉ hint.toList := by
  obtain ⟨name, -, hHint⟩ := List.mem_flatMap.mp h
  exact newline_not_mem_texts hHint

theorem newline_not_mem_demandHints {problem : Element} {hint : String}
    (h : hint ∈ demandHints problem) : '\n' ∉ hint.toList := by
  obtain ⟨e, -, hHint⟩ := List.mem_flatMap.mp h
  exact newline_not_mem_texts hHint

theorem newline_not_mem_promptTexts {problem : Element} {r : Response} {text : String}
    (h : text ∈ promptTexts problem r) : '\n' ∉ text.toList := by
  unfold promptTexts at h
  dsimp only at h
  split at h
  · exact newline_not_mem_texts h
  · rcases List.mem_append.mp h with h | h
    · exact newline_not_mem_texts h
    · exact newline_not_mem_texts h

/-! ## Lines -/

/-- Below a piece of a question there is an empty line. -/
theorem keyLines_prompt {text : String} (h : '\n' ∉ text.toList) :
    keyLines (Line.prompt text).render = [text.toList].filter startsWithBox := by
  have hText : (Line.prompt text).render.toList = text.toList ++ '\n' :: [] := by
    show (text ++ "\n").toList = _
    rw [String.toList_append]
    rfl
  rw [keyLines, hText, Text.splitOn_append_cons, Text.splitOn_of_not_mem h, List.filter_append]
  exact List.append_nil _

/-- The box in front of a hint is none to tick. -/
theorem keyLines_hint {hint : String} (h : '\n' ∉ hint.toList) :
    keyLines (Line.hint hint).render = [] := by
  have hText : (Line.hint hint).render.toList = "- [[?]] ".toList ++ hint.toList :=
    String.toList_append
  have hBox : startsWithBox ("- [[?]] ".toList ++ hint.toList) = false := rfl
  rw [keyLines_of_not_mem, hText]
  · exact List.filter_cons_of_neg (Bool.eq_false_iff.mp hBox)
  · rw [hText, List.mem_append, not_or]
    exact ⟨by decide, h⟩

theorem keyLines_choice (kind : Kind) (c : Element) :
    keyLines (kind.choiceLine c).render = [(kind.choiceLine c).render.toList] := by
  have hBox : startsWithBox (kind.choiceLine c).render.toList = true := by
    show startsWithBox ("- " ++ marker (kind == .choice) (isCorrect c) ++ " " ++
      c.textWithout feedbackNames).toList = true
    rw [String.toList_append]
    -- whatever its text is, the line has one of four beginnings
    generalize (kind == .choice) = single
    cases single <;> cases isCorrect c <;> rfl
  rw [keyLines_of_not_mem (newline_not_mem_choiceLine kind c)]
  exact List.filter_cons_of_pos hBox

/-! ## The quiz -/

variable {kind : Kind}

/-- The lines that a response adds to the key: the pieces of its question that start with a box, and its
choices. -/
def Kind.keyOf (kind : Kind) (problem : Element) (r : Response) : List (List Char) :=
  ((promptTexts problem r).map String.toList).filter startsWithBox ++
    (kind.choicesOf r.element).map fun c => (kind.choiceLine c).render.toList

theorem keyLines_responseLines (hKind : kind = .multipleChoice ∨ kind = .choice) (problem : Element)
    (r : Response) :
    ((kind.responseLines problem r).map Line.render).flatMap keyLines = kind.keyOf problem r := by
  -- the question, the choices and the hints of a response, in the order in which they are written
  have hPrompts : ((promptLines problem r).map Line.render).flatMap keyLines =
      ((promptTexts problem r).map String.toList).filter startsWithBox := by
    rw [promptLines, List.map_map, List.flatMap_map, List.map_eq_flatMap, List.filter_flatMap]
    exact List.flatMap_congr fun text hText => keyLines_prompt (newline_not_mem_promptTexts hText)
  have hChoices : ((kind.answerLines r.element).map Line.render).flatMap keyLines =
      (kind.choicesOf r.element).map fun c => (kind.choiceLine c).render.toList := by
    have hLines : kind.answerLines r.element = (kind.choicesOf r.element).map kind.choiceLine := by
      rcases hKind with rfl | rfl <;> rfl
    rw [hLines, List.map_map, List.flatMap_map, List.map_eq_flatMap]
    exact List.flatMap_congr fun c _ => keyLines_choice kind c
  have hHints : ((hintLines r.element).map Line.render).flatMap keyLines = [] := by
    rw [hintLines, List.map_map, List.flatMap_map]
    exact List.flatMap_eq_nil_iff.mpr fun hint hHint => keyLines_hint (newline_not_mem_hints hHint)
  rw [Kind.responseLines, List.map_append, List.map_append, List.flatMap_append, List.flatMap_append,
    hPrompts, hChoices, hHints, List.append_nil, Kind.keyOf]

theorem keyLines_problemText (hKind : kind = .multipleChoice ∨ kind = .choice) (problem : Element)
    (displayName : String) : keyLines (problemText kind problem displayName) =
      (kind.rendered problem).flatMap (kind.keyOf problem) := by
  have hLines : kind.lines problem displayName =
      (kind.rendered problem).flatMap (kind.responseLines problem) := by
    unfold Kind.lines
    rcases hKind with rfl | rfl <;> exact Kind.lines?_eq rfl
  -- the hints on demand come last and add nothing
  have hDemand : ((demandHints problem).map fun h => (Line.hint h).render).flatMap keyLines = [] := by
    rw [List.flatMap_map]
    exact List.flatMap_eq_nil_iff.mpr fun h hHint => keyLines_hint (newline_not_mem_demandHints hHint)
  rw [problemText_eq, keyLines_intercalate, List.flatMap_cons, hDemand, List.append_nil, render,
    keyLines_intercalate, hLines, List.map_flatMap, List.flatMap_assoc]
  exact List.flatMap_congr fun r _ => keyLines_responseLines hKind problem r

/-- Lists in two parts each are those of the second parts exactly if there are no first parts. -/
theorem flatMap_append_eq_iff {α β : Type} {f g : α → List β} {l : List α} :
    (l.flatMap fun x => f x ++ g x) = l.flatMap g ↔ ∀ x ∈ l, f x = [] := by
  constructor
  · intro h
    -- the second parts alone are as many, so nothing is left for the first ones
    have hLength : (l.flatMap fun x => f x ++ g x).length =
        (l.flatMap f).length + (l.flatMap g).length := by
      clear h
      induction l with
      | nil => rfl
      | cons x r ih =>
        simp only [List.flatMap_cons, List.length_append, ih]
        omega
    rw [h] at hLength
    exact List.flatMap_eq_nil_iff.mp (List.length_eq_zero_iff.mp (by omega))
  · intro h
    exact List.flatMap_congr fun x hx => by rw [h x hx, List.nil_append]

/--
**The key of a quiz.** The lines of a quiz with choices that start with a box are, in order, the pieces
of the questions that do, and the choices that are written, each ticked exactly if it is marked as
right. So they are the choices and nothing else exactly if no question that is written starts with a
box; hints never do.
-/
theorem key_of_choices (problem : Element) (displayName : String)
    (hKind : Kind.ofProblem problem = .multipleChoice ∨ Kind.ofProblem problem = .choice) :
    let kind := Kind.ofProblem problem
    let key := keyLines (problemText kind problem displayName)
    key = (kind.rendered problem).flatMap (kind.keyOf problem) ∧
    (key = ((kind.rendered problem).flatMap fun r => kind.choicesOf r.element).map
        (fun c => (kind.choiceLine c).render.toList) ↔
      ∀ r ∈ kind.rendered problem, ∀ text ∈ promptTexts problem r,
        startsWithBox text.toList = false) := by
  intro kind key
  have hKey : key = (kind.rendered problem).flatMap (kind.keyOf problem) :=
    keyLines_problemText hKind problem displayName
  refine ⟨hKey, ?_⟩
  rw [hKey, List.map_flatMap]
  refine flatMap_append_eq_iff.trans (forall_congr' fun r => forall_congr' fun _ => ?_)
  rw [List.filter_eq_nil_iff, List.forall_mem_map]
  simp

/-- A question, a hint and a choice with boxes inside their texts: the key is that of the choices. -/
theorem key_beside_boxes :
    let problem : Element := ⟨"problem", [], [.element "p" [] [.text "Tick - [[X]] or\n- [[ ]] ?"],
      .element "choiceresponse" [] [.element "choicegroup" []
        [.element "choice" [("correct", " TRUE ")] [.text "yes\n- [( )] no"],
          .element "choice" [("correct", "")] []],
        .element "hint" [] [.text "- [(X)] it is"]]]⟩
    Kind.ofProblem problem = .choice ∧
      keyLines (problemText .choice problem "") =
        ["- [(X)] yes - [( )] no".toList, "- [( )] ".toList] := by
  intro problem
  have hKind : Kind.ofProblem problem = .choice := by decide +kernel
  have hKey := (key_of_choices problem "" (.inr hKind)).2.mpr
  rw [hKind] at hKey
  refine ⟨hKind, (hKey (by decide +kernel)).trans ?_⟩
  decide +kernel

/-- A question that starts with a box: the key has a line more than there are choices. -/
theorem question_taken_for_choice :
    let problem : Element := ⟨"problem", [], [.element "multiplechoiceresponse" []
      [.element "p" [] [.text "- [[X]] marks a right answer"],
        .element "choicegroup" [] [.element "choice" [("correct", "false")] [.text "A"]]]]⟩
    Kind.ofProblem problem = .multipleChoice ∧
      ((Kind.rendered .multipleChoice problem).flatMap fun r =>
        Kind.choicesOf .multipleChoice r.element).length = 1 ∧
      keyLines (problemText .multipleChoice problem "") =
        ["- [[X]] marks a right answer".toList, "- [[ ]] A".toList] := by
  decide +kernel

end Coursebook.Quiz
