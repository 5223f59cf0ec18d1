import Coursebook.Xml.Element

/-!
# Coursebook — kinds of quiz

A problem is classified by the response elements it holds, at any depth: the first kind in a fixed
order of which there is one.
-/

namespace Coursebook.Quiz

open Coursebook.Xml

/-- The kinds of quiz. -/
inductive Kind where
  /-- Any number of the choices may be right. -/
  | multipleChoice
  /-- One of the choices is right. -/
  | choice
  /-- A choice from a list that drops down. -/
  | selection
  /-- A text to type. -/
  | textInput
  /-- A number to type. -/
  | numberInput
  | formula
  | code
  | unknown
  deriving DecidableEq, Repr

/-- The name of a kind. -/
def Kind.name : Kind → String
  | .multipleChoice => "multiple_choice"
  | .choice => "choice"
  | .selection => "selection"
  | .textInput => "text_input"
  | .numberInput => "number_input"
  | .formula => "formula"
  | .code => "code"
  | .unknown => "unknown"

/-- The response elements that tell a kind, in the order in which they are looked for after the
choices. -/
def Kind.responses : List (String × Kind) :=
  [("optionresponse", .selection), ("stringresponse", .textInput),
    ("numericalresponse", .numberInput), ("formularesponse", .formula), ("coderesponse", .code)]

/-- The kind that a choice response tells: one with check boxes is a multiple choice. -/
def Kind.ofChoiceResponse (response : Element) : Kind :=
  if (response.childrenNamed "checkboxgroup").isEmpty then .choice else .multipleChoice

/-- The kind of a problem. -/
def Kind.ofProblem (problem : Element) : Kind :=
  if problem.hasDescendant "multiplechoiceresponse" then .multipleChoice
  else match problem.descendants.find? (·.name == "choiceresponse") with
    | some response => .ofChoiceResponse response
    | none =>
      match Kind.responses.find? fun (name, _) => problem.hasDescendant name with
      | some (_, kind) => kind
      | none => .unknown

end Coursebook.Quiz
