import Coursebook.Text.Digit
import Coursebook.Text.Quoted

/-!
# Coursebook — command line arguments

A command takes two arguments, the input and the output directory, and options in any order. A long
option may be cut short where only one goes on like it, short ones may be written together, and
behind `--` everything is an argument.

`Arguments.read` goes through the words of a command line from left to right, so that of several
faults the first counts, and help is given even if there are faults behind the question for it.
-/

namespace Coursebook.Cli

open Coursebook.Text

/-- What an option is about. -/
inductive Flag where
  | help
  | verbose
  | quiet
  | author
  | email
  deriving DecidableEq, Repr

/-- An option. -/
structure CliOption where
  flag : Flag
  /-- The ways to write it. -/
  names : List String
  /-- Whether a value follows. -/
  takesValue : Bool := false
  deriving DecidableEq, Repr

/-- What is wrong with a command line. -/
inductive UsageError where
  /-- An option is cut short too much. -/
  | ambiguous (word : String) (names : List String)
  /-- The value of an option is missing. -/
  | noValue (names : List String)
  /-- An option that takes no value has one. -/
  | extraValue (names : List String) (value : String)
  /-- Arguments are missing. -/
  | required (names : List String)
  /-- There are more words than the command can use. -/
  | unrecognized (words : List String)
  deriving DecidableEq, Repr

/-- What is wrong with a command line, in words. -/
def UsageError.message : UsageError → String
  | .ambiguous word names => s!"ambiguous option: {word} could match " ++ ", ".intercalate names
  | .noValue names => "argument " ++ "/".intercalate names ++ ": expected one argument"
  | .extraValue names value =>
    "argument " ++ "/".intercalate names ++ ": ignored explicit argument " ++ quoted value
  | .required names => "the following arguments are required: " ++ ", ".intercalate names
  | .unrecognized words => "unrecognized arguments: " ++ " ".intercalate words

/-- A word of a command line. -/
inductive Word where
  | plain (s : String)
  /-- The mark behind which every word is plain. -/
  | separator
  /-- An option: the word itself, what it stands for, the name it uses, and a value that is part of
  the word. -/
  | option (word : String) (option : Option CliOption) (name : String) (value : Option String)
  deriving DecidableEq, Repr

/-- A name of an option, as far as a word tells. -/
structure Candidate where
  option : CliOption
  name : String
  value : Option String

/-- Whether a text starts with another. -/
def hasStart (start s : String) : Bool := start.toList.isPrefixOf s.toList

/-- The parts of a word around its first `=`. -/
def splitValue (word : String) : String × Option String :=
  let (name, value) := cut '=' word.toList
  (.ofList name, value.map .ofList)

/-- The option with a name. -/
def optionNamed? (options : List CliOption) (name : String) : Option CliOption :=
  options.find? (·.names.contains name)

/-- The options that a word may stand for, if it writes none in full. -/
def candidates (options : List CliOption) (word : String) : List Candidate :=
  if hasStart "--" word then
    let (start, value) := splitValue word
    options.flatMap fun o =>
      (o.names.filter (hasStart start)).map fun name => ⟨o, name, value⟩
  else
    let short := String.ofList (word.toList.take 2)
    let rest := String.ofList (word.toList.drop 2)
    options.flatMap fun o => o.names.filterMap fun name =>
      if name = short then some ⟨o, name, some rest⟩
      else if hasStart word name then some ⟨o, name, none⟩
      else none

/-- Whether a word writes a negative number. -/
def isNegativeNumber (word : String) : Bool :=
  let isDigit := fun c => (decimalDigit? c).isSome
  match word.toList with
  | '-' :: s =>
    match cut '.' s with
    | (whole, none) => !whole.isEmpty && whole.all isDigit
    | (whole, some part) => whole.all isDigit && !part.isEmpty && part.all isDigit
  | _ => false

/-- What a word before the separator is. -/
def Word.ofString (options : List CliOption) (word : String) : Except UsageError Word :=
  if !hasStart "-" word then .ok (.plain word)
  else match optionNamed? options word with
    | some o => .ok (.option word (some o) word none)
    | none =>
      let (name, value) := splitValue word
      if word = "-" then .ok (.plain word)
      else match value.bind fun _ => optionNamed? options name with
        | some o => .ok (.option word (some o) name value)
        | none =>
          match candidates options word with
          | [c] => .ok (.option word (some c.option) c.name c.value)
          | [] =>
            if isNegativeNumber word || word.toList.contains ' ' then .ok (.plain word)
            else .ok (.option word none word none)
          | several => .error (.ambiguous word (several.map (·.name)))

/-- What the words of a command line are. -/
def wordsOf (options : List CliOption) : List String → Except UsageError (List Word)
  | [] => .ok []
  | "--" :: r => .ok (.separator :: r.map .plain)
  | word :: r => do
    let w ← Word.ofString options word
    .ok (w :: (← wordsOf options r))

/-- What a command line gives. -/
structure Arguments where
  /-- The arguments, at most two. -/
  positional : List String := []
  /-- The options with their values, in order. -/
  given : List (Flag × String) := []
  /-- The words that are of no use. -/
  extra : List String := []
  deriving DecidableEq, Repr

namespace Arguments

/-- The input. -/
def input (a : Arguments) : String := a.positional.getD 0 ""

/-- The output directory. -/
def output (a : Arguments) : String := a.positional.getD 1 ""

/-- Whether an option is given. -/
def has (a : Arguments) (flag : Flag) : Bool := a.given.any (·.1 == flag)

/-- The value that is given last for an option. -/
def value? (a : Arguments) (flag : Flag) : Option String :=
  (a.given.reverse.find? (·.1 == flag)).map (·.2)

/-- Whether an argument is still expected. -/
def expects (a : Arguments) : Bool := a.positional.length < 2

end Arguments

/-- What ends the reading of a command line early. -/
inductive Stop where
  | help
  | usage (e : UsageError)
  deriving DecidableEq, Repr

/-- Takes an option. -/
def Arguments.take (a : Arguments) (o : CliOption) (value : String) : Except Stop Arguments :=
  if o.flag = .help then .error .help else .ok { a with given := a.given ++ [(o.flag, value)] }

/-- The options that are written together in a word: `o` and those that the letters behind it are the
short names of. An option that takes a value has no short name. -/
def cluster (options : List CliOption) (o : CliOption) :
    List Char → Except UsageError (List CliOption)
  | [] => .ok [o]
  | c :: r =>
    match optionNamed? options (.ofList ['-', c]) with
    | some next => do .ok (o :: (← cluster options next r))
    | none => .error (.extraValue o.names (.ofList (c :: r)))

/-- Takes an option whose value, if there is one, is part of its word. -/
def Arguments.takeWord (options : List CliOption) (a : Arguments) (o : CliOption) (name : String)
    (value : String) : Except Stop Arguments := do
  if o.takesValue then a.take o value
  else if hasStart "--" name || value.isEmpty then .error (.usage (.extraValue o.names value))
  else
    let found ← (cluster options o value.toList).mapError .usage
    found.foldlM (fun a o => a.take o "") a

/-- Goes through the words of a command line; `taken` says that the last word was an argument. -/
def readWords (options : List CliOption) (taken : Bool) (a : Arguments) :
    List Word → Except Stop Arguments
  | [] => .ok a
  | .plain s :: r =>
    if a.expects then readWords options true { a with positional := a.positional ++ [s] } r
    else readWords options false { a with extra := a.extra ++ [s] } r
  | .separator :: r =>
    if taken || (a.expects && !r.isEmpty) then readWords options false a r
    else readWords options false { a with extra := a.extra ++ ["--"] } r
  | .option word none _ _ :: r => readWords options false { a with extra := a.extra ++ [word] } r
  | .option _ (some o) name (some value) :: r => do
    readWords options false (← a.takeWord options o name value) r
  | .option _ (some o) _ none :: r =>
    if o.takesValue then
      match r with
      | .plain value :: r => do readWords options false (← a.take o value) r
      | _ => .error (.usage (.noValue o.names))
    else do readWords options false (← a.take o "") r

/-- Reads a command line. -/
def Arguments.read (options : List CliOption) (line : List String) : Except Stop Arguments := do
  let a ← readWords options false {} (← (wordsOf options line).mapError .usage)
  match ["input", "output_dir"].drop a.positional.length with
  | [] => if a.extra = [] then .ok a else .error (.usage (.unrecognized a.extra))
  | missing => .error (.usage (.required missing))

end Coursebook.Cli
