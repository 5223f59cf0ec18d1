import Coursebook.Proofs.Conversion.Completion

/-!
# Coursebook — the two commands agree

A command line that gives two arguments, with switches before, between and behind them, is read as
just that. Of the settings that the two commands make of it, only how verbose they are can differ;
and a batch does not look at that. So both commands do the same to the disk, and end with the same
exit code, although one tells of the failure that ends it and the other lets it through.

* `Gives` — what a command line gives, word by word.
* `Gives.read` — how it is read.
* `runFull_eq`, `runPlain_eq` — the commands, as the batch that they run.
* `commands_agree` — the commands on the same arguments.
-/

namespace Coursebook.Cli

open Files

variable {options : List CliOption} {flags : List Flag} {arguments line : List String}

/-! ## Command lines -/

/-- A command line that gives some arguments, in their order, and beside them only switches for some
flags, written in full. -/
inductive Gives (options : List CliOption) (flags : List Flag) : List String → List String → Prop
  | nil : Gives options flags [] []
  | argument {s : String} {arguments line : List String} (hPlain : hasStart "-" s = false)
      (hRest : Gives options flags arguments line) :
      Gives options flags (s :: arguments) (s :: line)
  | switch {word : String} {o : CliOption} {arguments line : List String}
      (hNamed : optionNamed? options word = some o) (hFlag : o.flag ∈ flags)
      (hBare : o.takesValue = false) (hRest : Gives options flags arguments line) :
      Gives options flags arguments (word :: line)

/-- No name of an option can be taken for an argument or for the separator. -/
def AreMarked (options : List CliOption) : Prop :=
  ∀ o ∈ options, ∀ name ∈ o.names, hasStart "-" name = true ∧ name ≠ "--"

instance : Decidable (AreMarked options) :=
  inferInstanceAs (Decidable (∀ o ∈ options, ∀ name ∈ o.names, _ ∧ _))

theorem AreMarked.of_named {word : String} {o : CliOption} (h : AreMarked options)
    (hNamed : optionNamed? options word = some o) : hasStart "-" word = true ∧ word ≠ "--" :=
  h o (List.mem_of_find?_eq_some hNamed) word (by simpa using List.find?_some hNamed)

/-- What a word is that is an argument or an option written in full. -/
def wordFor (options : List CliOption) (s : String) : Word :=
  if hasStart "-" s then .option s (optionNamed? options s) s none else .plain s

theorem wordFor_argument {s : String} (h : hasStart "-" s = false) :
    wordFor options s = .plain s := by
  rw [wordFor, h, if_neg Bool.false_ne_true]

theorem wordFor_switch {word : String} {o : CliOption} (h : AreMarked options)
    (hNamed : optionNamed? options word = some o) :
    wordFor options word = .option word (some o) word none := by
  rw [wordFor, if_pos (h.of_named hNamed).1, hNamed]

theorem wordsOf_cons {word : String} {w : Word} {words : List Word} (hMark : word ≠ "--")
    (hWord : Word.ofString options word = .ok w) (hRest : wordsOf options line = .ok words) :
    wordsOf options (word :: line) = .ok (w :: words) := by
  rw [wordsOf.eq_3 options word line hMark, hWord, bind_ok, hRest, bind_ok]

theorem Gives.wordsOf (h : Gives options flags arguments line) (hMarked : AreMarked options) :
    wordsOf options line = .ok (line.map (wordFor options)) := by
  induction h with
  | nil => rfl
  | @argument s _ _ hPlain _ ih =>
    have hMark : s ≠ "--" := by
      rintro rfl
      exact absurd hPlain (by decide)
    rw [List.map_cons, wordFor_argument hPlain]
    refine wordsOf_cons hMark ?_ ih
    rw [Word.ofString, hPlain]
    rfl
  | @switch word o _ _ hNamed _ _ _ ih =>
    obtain ⟨hDash, hMark⟩ := hMarked.of_named hNamed
    rw [List.map_cons, wordFor_switch hMarked hNamed]
    refine wordsOf_cons hMark ?_ ih
    rw [Word.ofString, hDash, hNamed]
    rfl

theorem readWords_switch {word name : String} {o : CliOption} (hBare : o.takesValue = false)
    (taken : Bool) (a : Arguments) (words : List Word) :
    readWords options taken a (.option word (some o) name none :: words) =
      (a.take o "" >>= fun a => readWords options false a words) := by
  rw [readWords.eq_def]
  dsimp only
  rw [hBare, if_neg Bool.false_ne_true]

/-- The arguments are taken one by one, as long as there are not more than two. -/
theorem Gives.readWords (h : Gives options flags arguments line) (hMarked : AreMarked options)
    (hHelp : .help ∉ flags) (taken : Bool) (a : Arguments)
    (hRoom : a.positional.length + arguments.length ≤ 2) :
    ∃ given, (∀ g ∈ given, g.1 ∈ flags) ∧
      readWords options taken a (line.map (wordFor options)) =
        .ok ⟨a.positional ++ arguments, a.given ++ given, a.extra⟩ := by
  induction h generalizing taken a with
  | nil =>
    refine ⟨[], fun _ hMem => absurd hMem List.not_mem_nil, ?_⟩
    rw [List.append_nil, List.append_nil]
    rfl
  | @argument s arguments line hPlain _ ih =>
    rw [List.length_cons] at hRoom
    have hExpects : a.expects = true := decide_eq_true (by omega)
    obtain ⟨given, hGiven, hRead⟩ := ih true { a with positional := a.positional ++ [s] } (by
      rw [List.length_append, List.length_singleton]
      omega)
    refine ⟨given, hGiven, ?_⟩
    rw [List.map_cons, wordFor_argument hPlain, Cli.readWords, if_pos hExpects, hRead,
      List.append_assoc]
    rfl
  | @switch word o arguments line hNamed hFlag hBare _ ih =>
    obtain ⟨given, hGiven, hRead⟩ :=
      ih false { a with given := a.given ++ [(o.flag, "")] } hRoom
    have hTake : a.take o "" = .ok { a with given := a.given ++ [(o.flag, "")] } :=
      if_neg (ne_of_mem_of_not_mem hFlag hHelp)
    refine ⟨(o.flag, "") :: given, List.forall_mem_cons.mpr ⟨hFlag, hGiven⟩, ?_⟩
    rw [List.map_cons, wordFor_switch hMarked hNamed, readWords_switch hBare, hTake, bind_ok,
      hRead, List.append_assoc]
    rfl

/-- A command line that gives two arguments is read as these, and as switches for the flags. -/
theorem Gives.read {input output : String} (h : Gives options flags [input, output] line)
    (hMarked : AreMarked options) (hHelp : .help ∉ flags) :
    ∃ a, Arguments.read options line = .ok a ∧ a.input = input ∧ a.output = output ∧
      ∀ g ∈ a.given, g.1 ∈ flags := by
  obtain ⟨given, hGiven, hRead⟩ := h.readWords hMarked hHelp false {} (Nat.le_refl 2)
  refine ⟨⟨[input, output], given, []⟩, ?_, rfl, rfl, hGiven⟩
  rw [Arguments.read, h.wordsOf hMarked, mapError_ok, bind_ok, hRead]
  rfl

/-! ## The commands -/

/-- The exit code that the outcome of a batch stands for. -/
def batchExitCode : Except Failure (List ArchiveReport) → Nat
  | .ok reports => exitCodeFor reports
  | .error _ => 1

theorem batchExitCode_eq_zero {result : Except Failure (List ArchiveReport)} :
    batchExitCode result = 0 ↔ ∃ reports, result = .ok reports ∧ ∀ r ∈ reports, r.success = true := by
  cases result with
  | error e => simp [batchExitCode]
  | ok reports => simp [batchExitCode, exitCodeFor_eq_zero]

theorem batchExitCode_le_one (result : Except Failure (List ArchiveReport)) :
    batchExitCode result = 0 ∨ batchExitCode result = 1 := by
  cases result with
  | error e => exact .inr rfl
  | ok reports => exact ite_eq_or_eq _ 0 1

/-- The exit code of a program that the plain command ends: a failure that nobody catches is a one. -/
def PlainEnding.exitCode : PlainEnding → Nat
  | .done ending => ending.exitCode
  | .failed _ _ => 1

theorem exitCode_fullEnding (config : Config) (result : Except Failure (List ArchiveReport)) :
    (fullEnding config result).exitCode = batchExitCode result := by
  cases result with
  | ok reports => rfl
  | error e => cases e <;> rfl

/-- A batch does not look at how verbose the settings are. -/
theorem standard_convertBatch (verbose : Bool) (input out : Path) :
    (Converter.standard { verbose }).convertBatch input out =
      (Converter.standard {}).convertBatch input out :=
  Printing.convertBatch_verbose {} (Course.Registry.standard {}) verbose input out

/-- A command line without a value for them leaves the author and the address as usual. -/
theorem fullConfig_eq {a : Arguments} (h : ∀ g ∈ a.given, g.1 ∈ [Flag.verbose, .quiet]) :
    fullConfig a = { verbose := !a.has .quiet } := by
  have hNone {flag : Flag} (hFlag : flag ∉ [Flag.verbose, .quiet]) : a.value? flag = none := by
    rw [Arguments.value?, Option.map_eq_none_iff, List.find?_eq_none]
    intro g hMem hIs
    exact hFlag (beq_iff_eq.mp hIs ▸ h g (List.mem_reverse.mp hMem))
  unfold fullConfig
  rw [hNone (by decide), hNone (by decide)]
  rfl

/-- The usual batch: what both commands run. -/
def usualBatch (input output : String) (w : World) : Except Failure (List ArchiveReport) × World :=
  ((Converter.standard {}).convertBatch (.ofString input) (.ofString output)).run
    { w with notices := [] }

variable {input output : String}

theorem runFull_eq (h : Gives Command.full.options [.verbose, .quiet] [input, output] line)
    (w : World) :
    (runFull line w).1.exitCode = batchExitCode (usualBatch input output w).1 ∧
      (runFull line w).2 = (usualBatch input output w).2 := by
  obtain ⟨a, hRead, rfl, rfl, hGiven⟩ := h.read (by decide) (by decide)
  unfold runFull Command.withArguments
  rw [hRead]
  dsimp only
  rw [fullConfig_eq hGiven, standard_convertBatch]
  exact ⟨exitCode_fullEnding _ _, rfl⟩

theorem runPlain_eq (h : Gives Command.plain.options [.verbose] [input, output] line) (w : World) :
    (runPlain line w).1.exitCode = batchExitCode (usualBatch input output w).1 ∧
      (runPlain line w).2 = (usualBatch input output w).2 := by
  obtain ⟨a, hRead, rfl, rfl, -⟩ := h.read (by decide) (by decide)
  unfold runPlain Command.withArguments usualBatch
  rw [hRead]
  dsimp only
  rw [standard_convertBatch]
  rcases ((Converter.standard {}).convertBatch (.ofString a.input) (.ofString a.output)).run
    { w with notices := [] } with ⟨outcome, after⟩
  cases outcome with
  | ok reports => exact ⟨rfl, rfl⟩
  | error e => exact ⟨rfl, rfl⟩

/--
**The two commands agree.** On the same two arguments, whatever switches the one and the other are
given to be quiet or verbose, they leave the same disk and end with the same exit code, where a
failure that the plain command lets through is a one. It is the disk that the batch of these arguments
leaves, and the code is zero if the batch has reports which all tell of success, and one otherwise.
-/
theorem commands_agree (w : World) {full plain : List String}
    (hFull : Gives Command.full.options [.verbose, .quiet] [input, output] full)
    (hPlain : Gives Command.plain.options [.verbose] [input, output] plain) :
    (runPlain plain w).2.disk = (runFull full w).2.disk ∧
      (runPlain plain w).1.exitCode = (runFull full w).1.exitCode ∧
      (runFull full w).2.disk = (usualBatch input output w).2.disk ∧
      ((runFull full w).1.exitCode = 0 ↔
        ∃ reports, (usualBatch input output w).1 = .ok reports ∧
          ∀ r ∈ reports, r.success = true) ∧
      ((runFull full w).1.exitCode = 0 ∨ (runFull full w).1.exitCode = 1) := by
  obtain ⟨hCode, hWorld⟩ := runFull_eq hFull w
  obtain ⟨hCode', hWorld'⟩ := runPlain_eq hPlain w
  rw [hCode, hCode', hWorld, hWorld']
  exact ⟨rfl, rfl, rfl, batchExitCode_eq_zero, batchExitCode_le_one _⟩

/-- Where no archive is found, that is the outcome. -/
theorem usualBatch_of_not_found {w : World} {e : Failure}
    (h : Archive.find w.disk (.ofString input) = .error e) :
    (usualBatch input output w).1 = .error e := by
  have hReading : (World.reading (ExceptT.mk (pure (Archive.find w.disk (.ofString input))))).run
      { w with notices := [] } = (.error e, { w with notices := [] }) := by
    rw [h]
    rfl
  rw [usualBatch, Converter.convertBatch, run_bind_of_ok (World.getDisk_run _),
    run_bind_of_error hReading]

/-- A path that is not there: the full command tells so, the plain one fails, and both end with one. -/
theorem commands_agree_on_missing_input :
    let full := ["in", "--quiet", "out"]
    let plain := ["--verbose", "in", "out"]
    Gives Command.full.options [.verbose, .quiet] ["in", "out"] full ∧
      Gives Command.plain.options [.verbose] ["in", "out"] plain ∧
      (runPlain plain ⟨{}, []⟩).2.disk = (runFull full ⟨{}, []⟩).2.disk ∧
      (runPlain plain ⟨{}, []⟩).1.exitCode = (runFull full ⟨{}, []⟩).1.exitCode ∧
      (runFull full ⟨{}, []⟩).1.exitCode = 1 := by
  intro full plain
  have hFull : Gives Command.full.options [.verbose, .quiet] ["in", "out"] full :=
    .argument rfl (.switch rfl (by decide) rfl (.argument rfl .nil))
  have hPlain : Gives Command.plain.options [.verbose] ["in", "out"] plain :=
    .switch rfl (by decide) rfl (.argument rfl (.argument rfl .nil))
  obtain ⟨hDisk, hCode, -⟩ := commands_agree ⟨{}, []⟩ hFull hPlain
  have hHas : Disk.has {} (.ofString "in") = .ok false := by cbv
  have hNotFound : Archive.find {} (.ofString "in") =
      .error (.archive (.noInput (.ofString "in"))) := by
    rw [Archive.find_eq, hHas]
  refine ⟨hFull, hPlain, hDisk, hCode, ?_⟩
  rw [(runFull_eq hFull _).1, usualBatch_of_not_found hNotFound]
  rfl

end Coursebook.Cli
