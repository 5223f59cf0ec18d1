import Coursebook.Quiz.Problem
import Mathlib.Data.List.Basic

/-!
# Coursebook — the lines of a quiz

A quiz is written response by response: for each its question, what there is to answer, and its hints.
Which responses are written, and in which order, is all that the kind of the quiz decides beside what
there is to answer.

* `Kind.rendered`, `Kind.answerLines` — the responses of a quiz, and what they give to answer.
* `Kind.lines?_eq` — the lines, written from these.
-/

namespace Coursebook.Quiz

open Coursebook.Xml

variable {kind : Kind} {problem : Element} {name : String} {r : Response}

/-! ## Responses -/

theorem mem_responses : r ∈ responses problem name ↔
    problem.preorder[r.place]? = some r.element ∧ r.element.name = name := by
  simp only [responses, List.mem_map, List.mem_filter, Prod.exists, List.mem_zipIdx_iff_getElem?,
    beq_iff_eq]
  constructor
  · rintro ⟨e, place, ⟨hAt, hName⟩, rfl⟩
    exact ⟨hAt, hName⟩
  · rintro ⟨hAt, hName⟩
    exact ⟨r.element, r.place, ⟨hAt, hName⟩, rfl⟩

/-- Without their places, the responses are the elements of the name. -/
theorem responses_map_element (problem : Element) (name : String) :
    (responses problem name).map Response.element = problem.preorder.filter (·.name == name) := by
  rw [responses, List.map_map]
  show (problem.preorder.zipIdx.filter ((·.name == name) ∘ Prod.fst)).map Prod.fst = _
  rw [← List.filter_map, List.zipIdx_map_fst]

theorem responses_places_nodup (problem : Element) (name : String) :
    ((responses problem name).map Response.place).Nodup := by
  rw [responses, List.map_map]
  show ((problem.preorder.zipIdx.filter _).map Prod.snd).Nodup
  refine (List.filter_sublist.map Prod.snd).nodup ?_
  rw [List.zipIdx_map_snd]
  exact List.nodup_range'

/-- The responses that a quiz of a kind is written from, in the order in which they are written. -/
def Kind.rendered (kind : Kind) (problem : Element) : List Response :=
  match kind with
  | .multipleChoice =>
    Quiz.responses problem "multiplechoiceresponse" ++
      (Quiz.responses problem "choiceresponse").filter fun r =>
        !(r.element.childrenNamed "checkboxgroup").isEmpty
  | .choice => Quiz.responses problem "choiceresponse"
  | .selection => Quiz.responses problem "optionresponse"
  | .textInput => Quiz.responses problem "stringresponse"
  | .numberInput => Quiz.responses problem "numericalresponse"
  | .formula | .code | .unknown => []

/-- Each is written once. -/
theorem Kind.rendered_places_nodup (kind : Kind) (problem : Element) :
    ((kind.rendered problem).map Response.place).Nodup := by
  cases kind with
  | multipleChoice =>
    rw [Kind.rendered, List.map_append, List.nodup_append]
    refine ⟨responses_places_nodup _ _,
      (List.filter_sublist.map _).nodup (responses_places_nodup _ _), ?_⟩
    -- an element has one name
    intro place hFirst place' hSecond hSame
    obtain ⟨r, hr, rfl⟩ := List.mem_map.mp hFirst
    obtain ⟨r', hr', rfl⟩ := List.mem_map.mp hSecond
    obtain ⟨hAt, hName⟩ := mem_responses.mp hr
    obtain ⟨hAt', hName'⟩ := mem_responses.mp (List.mem_filter.mp hr').1
    rw [hSame, hAt', Option.some.injEq] at hAt
    rw [← hAt, hName'] at hName
    exact absurd hName (by decide)
  | choice => exact responses_places_nodup _ _
  | selection => exact responses_places_nodup _ _
  | textInput => exact responses_places_nodup _ _
  | numberInput => exact responses_places_nodup _ _
  | formula => exact List.nodup_nil
  | code => exact List.nodup_nil
  | unknown => exact List.nodup_nil

/-! ## Lines -/

/-- The name of the groups that hold the choices of a response, by the name of the response. -/
def Kind.groupName? : Kind → String → Option String
  | .multipleChoice, response =>
    [("multiplechoiceresponse", "choicegroup"), ("choiceresponse", "checkboxgroup")].lookup response
  | .choice, response => [("choiceresponse", "choicegroup")].lookup response
  | _, _ => none

/-- The choices of a response, in a quiz of a kind. -/
def Kind.choicesOf (kind : Kind) (response : Element) : List Element :=
  match kind.groupName? response.name with
  | some name => (response.childrenNamed name).flatMap (·.childrenNamed "choice")
  | none => []

/-- What is written for a choice; in a single choice only one may be ticked. -/
def Kind.choiceLine (kind : Kind) (c : Element) : Line :=
  .choice (kind == .choice) (isCorrect c) (c.textWithout feedbackNames)

/-- What a response gives to answer, in a quiz of a kind. -/
def Kind.answerLines (kind : Kind) (response : Element) : List Line :=
  match kind with
  | .multipleChoice | .choice => (kind.choicesOf response).map kind.choiceLine
  | .selection =>
    match options response with
    | [] => []
    | os => [.dropdown os]
  | .textInput => [.field (acceptedAnswers response)]
  | .numberInput => [.numberField]
  | .formula | .code | .unknown => []

/-- The lines of a response. -/
def Kind.responseLines (kind : Kind) (problem : Element) (r : Response) : List Line :=
  promptLines problem r ++ kind.answerLines r.element ++ hintLines r.element

theorem choiceResponseLines_eq {single : Bool} {groupName : String}
    (hSingle : (kind == .choice) = single) (hGroup : kind.groupName? r.element.name = some groupName)
    (hKind : kind = .multipleChoice ∨ kind = .choice) :
    choiceResponseLines problem single groupName r = kind.responseLines problem r := by
  have hChoices : (r.element.childrenNamed groupName).flatMap (choiceLines single) =
      (kind.choicesOf r.element).map kind.choiceLine := by
    unfold Kind.choicesOf
    rw [hGroup]
    dsimp only
    rw [List.map_flatMap]
    refine List.flatMap_congr fun group _ => ?_
    rw [← hSingle]
    rfl
  rw [choiceResponseLines, Kind.responseLines, hChoices]
  rcases hKind with rfl | rfl <;> rfl

/-- A quiz is written response by response. -/
theorem Kind.lines?_eq {lines : List Line} (h : kind.lines? problem = some lines) :
    lines = (kind.rendered problem).flatMap (kind.responseLines problem) := by
  cases kind with
  | multipleChoice =>
    obtain rfl : multipleChoiceLines problem = lines := Option.some.inj h
    rw [Kind.rendered, List.flatMap_append, multipleChoiceLines]
    congr 1
    · refine List.flatMap_congr fun r hr => choiceResponseLines_eq rfl ?_ (.inl rfl)
      rw [(mem_responses.mp hr).2]
      rfl
    · refine List.flatMap_congr fun r hr => choiceResponseLines_eq rfl ?_ (.inl rfl)
      rw [(mem_responses.mp (List.mem_filter.mp hr).1).2]
      rfl
  | choice =>
    obtain rfl : singleChoiceLines problem = lines := Option.some.inj h
    refine List.flatMap_congr fun r hr => choiceResponseLines_eq rfl ?_ (.inr rfl)
    rw [(mem_responses.mp hr).2]
    rfl
  | selection => exact (Option.some.inj h).symm
  | textInput => exact (Option.some.inj h).symm
  | numberInput => exact (Option.some.inj h).symm
  | formula => cases h
  | code => cases h
  | unknown => cases h

/-- The written form of a problem is that of its quiz, with the hints on demand below it. -/
theorem problemText_eq (kind : Kind) (problem : Element) (displayName : String) :
    problemText kind problem displayName =
      "\n".intercalate (render (kind.lines problem displayName) ::
        (demandHints problem).map fun h => (Line.hint h).render) := by
  unfold problemText
  dsimp only
  split
  · next hNone =>
    rw [hNone, List.map_nil, String.intercalate_singleton]
  · rfl

end Coursebook.Quiz
