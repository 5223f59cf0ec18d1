import Coursebook.Quiz.Kind

/-!
# Coursebook — lines of a quiz

What the written form of a quiz consists of. A quiz is a list of lines; `Line.render` writes one and
`render` writes them one below the other.
-/

namespace Coursebook.Quiz

/-- One entry of the written form of a quiz. -/
inductive Line where
  /-- A piece of the question. -/
  | prompt (text : String)
  /-- An answer to tick; `single` says that only one may be ticked. -/
  | choice (single correct : Bool) (text : String)
  /-- A list that drops down, with the entries that are right marked. -/
  | dropdown (options : List (String × Bool))
  /-- A field for text, with the answers that are accepted. -/
  | field (answers : List String)
  /-- A field for a number. -/
  | numberField
  /-- A hint. -/
  | hint (text : String)
  /-- The note that a kind of problem cannot be written as a quiz. -/
  | unsupported (kind : String)
  deriving DecidableEq, Repr

/-- The box in front of an answer to tick. -/
def marker (single correct : Bool) : String :=
  match single, correct with
  | false, true => "[[X]]"
  | false, false => "[[ ]]"
  | true, true => "[(X)]"
  | true, false => "[( )]"

/-- An entry of a list that drops down. -/
def optionText (option : String × Bool) : String :=
  if option.2 then s!"( {option.1} )" else option.1

/-- The written form of a line. -/
def Line.render : Line → String
  | .prompt text => s!"{text}\n"
  | .choice single correct text => s!"- {marker single correct} {text}"
  | .dropdown options => "[[ " ++ " | ".intercalate (options.map optionText) ++ " ]]"
  | .field [] => "\n    [[ ]]\n"
  | .field answers => "\n    [[" ++ " | ".intercalate answers ++ "]]\n"
  | .numberField => "    [[Enter a number]]\n"
  | .hint text => s!"- [[?]] {text}"
  | .unsupported kind =>
    "*Only multiple choice, single choice, dropdown, text input and number input " ++
      s!"problems are supported; problem type '{kind}' is not supported.*\n"

/-- The written form of lines. -/
def render (lines : List Line) : String := "\n".intercalate (lines.map Line.render)

end Coursebook.Quiz
