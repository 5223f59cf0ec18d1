import Coursebook.Cli.Arguments
import Coursebook.Conversion.Convert

/-!
# Coursebook — commands

The two commands that convert all courses a path stands for. The full command tells about its
progress unless it is asked not to, ends with a summary, and never fails otherwise than with its
exit code. The plain one tells nothing unless it is asked to, gives one line for each course, and
lets failures through.
-/

namespace Coursebook.Cli

open Coursebook.Files

/-- A command: its name, its options and the words about them. -/
structure Command where
  name : String
  options : List CliOption
  usage : String
  /-- The rest of the help. -/
  description : String

namespace Command

/-- The help. -/
def help (c : Command) : String := s!"{c.usage}\n{c.description}"

/-- The words for a command line that is wrong. -/
def complaint (c : Command) (e : UsageError) : String :=
  s!"{c.usage}{c.name}: error: {e.message}\n"

/-- The full command. -/
def full : Command where
  name := "cli.py"
  options :=
    [{ flag := .help, names := ["-h", "--help"] },
      { flag := .verbose, names := ["-v", "--verbose"] },
      { flag := .quiet, names := ["-q", "--quiet"] },
      { flag := .author, names := ["--author"], takesValue := true },
      { flag := .email, names := ["--email"], takesValue := true }]
  usage := "usage: cli.py [-h] [-v] [-q] [--author AUTHOR] [--email EMAIL]
              input output_dir
"
  description := "Convert Open edX OLX course exports to LiaScript Markdown

positional arguments:
  input            Path to a .tar.gz course export or a directory containing
                   several
  output_dir       Output directory; each course gets <name>/course.md and
                   <name>/media/

options:
  -h, --help       show this help message and exit
  -v, --verbose    Enable verbose output (default)
  -q, --quiet      Suppress output messages
  --author AUTHOR  Author written to the LiaScript header
  --email EMAIL    Email written to the LiaScript header

Examples:
  # Convert a single course
  python cli.py course.tar.gz output/

  # Convert every .tar.gz in a directory
  python cli.py exports/ output/

  # Quiet mode
  python cli.py exports/ output/ --quiet
        "

/-- The plain command. -/
def plain : Command where
  name := "__main__.py"
  options :=
    [{ flag := .help, names := ["-h", "--help"] }, { flag := .verbose, names := ["--verbose"] }]
  usage := "usage: __main__.py [-h] [--verbose] input output_dir\n"
  description := "Convert Open edX OLX course exports to LiaScript Markdown

positional arguments:
  input       A .tar.gz course export or a directory of them
  output_dir  Output directory for converted courses

options:
  -h, --help  show this help message and exit
  --verbose   Print verbose output"

end Command

/-- What a command writes beside its output. -/
inductive Complaint where
  | none
  | usage (text : String)
  /-- The failure that has ended the command, for those who want to know where it comes from. -/
  | trace (e : Failure)
  deriving DecidableEq, Repr

/-- How a command ends. -/
structure Ending where
  exitCode : Nat
  complaint : Complaint := .none
  /-- The lines of its own output, which come after all notices. -/
  output : List String := []
  deriving DecidableEq, Repr

/-- What a command does with its command line. -/
def Command.withArguments {α : Type} (c : Command) (line : List String) (early : Ending → α)
    (run : Arguments → α) : α :=
  match Arguments.read c.options line with
  | .ok a => run a
  | .error .help => early { exitCode := 0, output := [c.help] }
  | .error (.usage e) => early { exitCode := 2, complaint := .usage (c.complaint e) }

/-- The exit code for reports: zero if every course has been converted. -/
def exitCodeFor (reports : List ArchiveReport) : Nat := if reports.all (·.success) then 0 else 1

/-! ## The full command -/

/-- The settings that a command line asks for. -/
def fullConfig (a : Arguments) : Config :=
  let usual : Config := {}
  { usual with
    verbose := !a.has .quiet
    author := (a.value? .author).getD usual.author
    email := (a.value? .email).getD usual.email }

/-- The lines about an archive in the summary. -/
def summaryLines (r : ArchiveReport) : List String :=
  match r.outcome with
  | .error message => [s!"   ❌ {r.source}: {message}"]
  | .ok report =>
    let s := report.statistics
    [s!"   ✅ {report.title} ({report.id})",
      s!"      Chapters: {s.chapters}",
      s!"      Sequentials: {s.sequentials}",
      s!"      Components: {s.components} ({s.failedComponents} unavailable)",
      s!"      Media files: {s.media}",
      s!"      📁 Output: {report.directory}"]

/-- How the full command ends with the reports, or with the failure there are none for. -/
def fullEnding (config : Config) : Except Failure (List ArchiveReport) → Ending
  | .error (.archive e) => { exitCode := 1, output := [s!"❌ Error: {e.message}"] }
  | .error e =>
    { exitCode := 1
      complaint := if config.verbose then .trace e else .none
      output := [s!"\n❌ Conversion failed: {e.message}"] }
  | .ok reports =>
    { exitCode := exitCodeFor reports
      output :=
        if config.verbose then "\n📊 Conversion Summary:" :: reports.flatMap summaryLines else [] }

/-- What a command has printed: the notices, if it tells them, and its own lines. -/
def printed (verbose : Bool) (notices : List Notice) (output : List String) : List String :=
  (if verbose then notices.map Notice.text else []) ++ output

/-- Runs the full command. -/
def runFull (line : List String) (w : World) : Ending × World :=
  Command.full.withArguments line (·, w) fun a =>
    let config := fullConfig a
    let (result, after) :=
      ((Converter.standard config).convertBatch (.ofString a.input) (.ofString a.output)).run
        { w with notices := [] }
    let ending := fullEnding config result
    ({ ending with output := printed config.verbose after.notices ending.output }, after)

/-! ## The plain command -/

/-- The line about an archive. -/
def plainLine (r : ArchiveReport) : String :=
  match r.outcome with
  | .ok report => s!"{r.source}: {report.title} -> {report.directory}"
  | .error message => s!"{r.source}: failed ({message})"

/-- How the plain command ends: with an exit code, or with a failure after the lines printed. -/
inductive PlainEnding where
  | done (ending : Ending)
  | failed (e : Failure) (output : List String)

/-- Runs the plain command. -/
def runPlain (line : List String) (w : World) : PlainEnding × World :=
  Command.plain.withArguments line (.done ·, w) fun a =>
    let config : Config := { verbose := a.has .verbose }
    let (result, after) :=
      ((Converter.standard config).convertBatch (.ofString a.input) (.ofString a.output)).run
        { w with notices := [] }
    match result with
    | .error e => (.failed e (printed config.verbose after.notices []), after)
    | .ok reports =>
      let output := printed config.verbose after.notices (reports.map plainLine)
      (.done { exitCode := exitCodeFor reports, output }, after)

end Coursebook.Cli
