import Coursebook.Quiz.Line
import Coursebook.Text.LowerCase

/-!
# Coursebook — problems as quizzes

The lines of a quiz from the problem element it is written in.

* Each response gives its prompt, its answers and its hints, in document order; a multiple choice
  gives first the responses with choices, then those with check boxes.
* A response without a prompt of its own shows that of the problem, but only the first one does.
* Feedback to a choice never becomes part of its text.
-/

namespace Coursebook.Quiz

open Coursebook.Xml

/-- A response, and its place among the elements of the problem. -/
structure Response where
  place : Nat
  element : Element

/-- The elements that hold feedback to a choice. -/
def feedbackNames : List String := ["choicehint", "optionhint"]

/-- The elements that hold hints. -/
def hintNames : List String := ["hint", "demotedhint", "description"]

/-- The texts of elements that have any. -/
def texts (elements : List Element) : List String :=
  (elements.map Element.text).filter (· ≠ "")

/-- The hints of a response or problem, kind by kind. -/
def hints (e : Element) : List String :=
  hintNames.flatMap fun name => texts (e.childrenNamed name)

/-- The hints that a problem gives on demand. -/
def demandHints (problem : Element) : List String :=
  (problem.childrenNamed "demandhint").flatMap fun e => texts (e.childrenNamed "hint")

/-- Whether an element is marked as a right answer. -/
def isCorrect (e : Element) : Bool :=
  Text.lower ((e.attribute? "correct").getD "").trimBlanks == "true"

/-- The responses of a problem that have a name. -/
def responses (problem : Element) (name : String) : List Response :=
  (problem.preorder.zipIdx.filter (·.1.name == name)).map fun (e, place) => ⟨place, e⟩

/-- The place of the first response below a problem. -/
def firstResponse? (problem : Element) : Option Nat :=
  (problem.descendants.findIdx? fun e => "response".toList.isSuffixOf e.name.toList).map (· + 1)

/-- The pieces of the question that a response asks. -/
def promptTexts (problem : Element) (r : Response) : List String :=
  let own := texts (r.element.childrenNamed "p") ++ texts (r.element.childrenNamed "label")
  if own = [] ∧ firstResponse? problem = some r.place then texts (problem.childrenNamed "p")
  else own

/-- The lines of a question. -/
def promptLines (problem : Element) (r : Response) : List Line :=
  (promptTexts problem r).map .prompt

/-- The lines of the hints to a response. -/
def hintLines (e : Element) : List Line := (hints e).map .hint

/-- The choices of a group. -/
def choiceLines (single : Bool) (group : Element) : List Line :=
  (group.childrenNamed "choice").map fun c =>
    .choice single (isCorrect c) (c.textWithout feedbackNames)

/-- The lines of a response with groups of choices. -/
def choiceResponseLines (problem : Element) (single : Bool) (groupName : String) (r : Response) :
    List Line :=
  promptLines problem r ++
    (r.element.childrenNamed groupName).flatMap (choiceLines single) ++ hintLines r.element

/-- A multiple choice. -/
def multipleChoiceLines (problem : Element) : List Line :=
  (responses problem "multiplechoiceresponse").flatMap
      (choiceResponseLines problem false "choicegroup") ++
    ((responses problem "choiceresponse").filter fun r =>
        !(r.element.childrenNamed "checkboxgroup").isEmpty).flatMap
      (choiceResponseLines problem false "checkboxgroup")

/-- A single choice. -/
def singleChoiceLines (problem : Element) : List Line :=
  (responses problem "choiceresponse").flatMap (choiceResponseLines problem true "choicegroup")

/-- The names between quotes of either kind in a text. A quote that is not closed is passed over. -/
def quotedNames : List Char → List (List Char)
  | [] => []
  | c :: r =>
    if (c = '\'' ∨ c = '"') ∧ r.contains c then
      r.takeWhile (· != c) :: quotedNames ((r.dropWhile (· != c)).drop 1)
    else quotedNames r
termination_by s => s.length
decreasing_by
  · have := (List.dropWhile_sublist (l := r) (fun x => x != c)).length_le
    simp only [List.length_drop, List.length_cons]
    omega
  · simp

/-- The entries that an element lists in its attributes, each right if it is the one named. -/
def listedOptions (e : Element) : List (String × Bool) :=
  let correct := (e.attribute? "correct").getD ""
  (quotedNames ((e.attribute? "options").getD "").toList).map fun n =>
    (.ofList n, String.ofList n == correct)

/-- The entries of a list that drops down: the option elements, or else those listed in
attributes. -/
def options (response : Element) : List (String × Bool) :=
  (response.childrenNamed "optioninput").flatMap fun input =>
    match input.childrenNamed "option" with
    | [] => listedOptions input
    | os => os.map fun o => (o.textWithout feedbackNames, isCorrect o)

/-- A choice from a list that drops down. -/
def selectionLines (problem : Element) : List Line :=
  (responses problem "optionresponse").flatMap fun r =>
    promptLines problem r ++
      (match options r.element with
        | [] => []
        | os => [.dropdown os]) ++ hintLines r.element

/-- The answers that a text response accepts. -/
def acceptedAnswers (response : Element) : List String :=
  let first := (response.attribute? "answer").getD ""
  let others := (response.childrenNamed "additional_answer").map fun e =>
    (e.attribute? "answer").getD e.text
  ((first :: others).map String.trimBlanks).filter (· ≠ "")

/-- A text to type. -/
def textInputLines (problem : Element) : List Line :=
  (responses problem "stringresponse").flatMap fun r =>
    promptLines problem r ++ [.field (acceptedAnswers r.element)] ++ hintLines r.element

/-- A number to type; which one is right is not written. -/
def numberInputLines (problem : Element) : List Line :=
  (responses problem "numericalresponse").flatMap fun r =>
    promptLines problem r ++ [.numberField] ++ hintLines r.element

/-- A problem that cannot be written as a quiz: its question, its name and a note. -/
def unsupportedLines (problem : Element) (displayName kind : String) : List Line :=
  (texts (problem.childrenNamed "p")).map .prompt ++
    (if displayName = "" then [] else [.prompt displayName]) ++
    [.unsupported kind] ++ hintLines problem

/-- The lines of a problem as a quiz of a kind, if there is a written form for the kind. -/
def Kind.lines? (kind : Kind) (problem : Element) : Option (List Line) :=
  match kind with
  | .multipleChoice => some (multipleChoiceLines problem)
  | .choice => some (singleChoiceLines problem)
  | .selection => some (selectionLines problem)
  | .textInput => some (textInputLines problem)
  | .numberInput => some (numberInputLines problem)
  | .formula | .code | .unknown => none

/-- The lines of a problem as a quiz of a kind. -/
def Kind.lines (kind : Kind) (problem : Element) (displayName : String) : List Line :=
  (kind.lines? problem).getD (unsupportedLines problem displayName kind.name)

/-- The written form of a problem: the quiz, and below it the hints on demand. -/
def problemText (kind : Kind) (problem : Element) (displayName : String) : String :=
  let quiz := render (kind.lines problem displayName)
  match demandHints problem with
  | [] => quiz
  | extra => "\n".intercalate (quiz :: extra.map fun h => (Line.hint h).render)

end Coursebook.Quiz
