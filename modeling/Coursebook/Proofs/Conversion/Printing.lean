import Coursebook.Cli.Command
import Coursebook.Conversion.Printing
import Coursebook.Proofs.Conversion.World

/-!
# Coursebook — verbosity affects only what is printed

The steps that print on the way are compared with those that give every notice, run by run: from
states that agree in all but the notices, both end in the same way, in states that again agree in all
but the notices, and what is printed is what is given if the settings are verbose, and nothing if they
are not. The steps that give every notice do not look at how verbose the settings are. So two settings
that differ in that alone make a difference to nothing but the notices.

* `Prints` — the comparison, kept by everything that steps are made of.
* `Prints.unheeding` — what has been told before plays no part.
* `prints_convertBatch` — a batch, after all that it consists of.
* `verbosity_only_prints` — reading, writing, copying and converting under two such settings.
* `Cli.runFull_prints`, `Cli.runPlain_prints` — the commands show what is printed on the way.
-/

namespace Coursebook

open Files Course

theorem Converter.makeDocument_run (c : Converter) (o : Outline) (root : Path) (w : World) :
    (c.makeDocument o root).run w =
      let written := (writeDocument c.config c.registry w.disk o (some root)).run ⟨{}, w.notices⟩
      (written.1.map (·, written.2.tally), ⟨w.disk, written.2.notices⟩) := rfl

namespace Printing

variable {σ ρ α β : Type} {rest : σ → ρ} {notices : σ → List Notice} {config : Config}

/-- What is printed of some notices. -/
def heard (config : Config) (given : List Notice) : List Notice :=
  if config.verbose then given else []

theorem heard_nil (config : Config) : heard config [] = [] := by
  unfold heard
  split <;> rfl

theorem heard_append (config : Config) (given more : List Notice) :
    heard config (given ++ more) = heard config given ++ heard config more := by
  unfold heard
  split <;> rfl

/-- Two states that agree in all but the notices. The first has been given some since `before`, and
those of them that are printed have been given to the second since `before'`. -/
structure Follows (rest : σ → ρ) (notices : σ → List Notice) (config : Config)
    (before before' : List Notice) (s s' : σ) : Prop where
  same : rest s' = rest s
  heard : ∃ given, notices s = before ++ given ∧ notices s' = before' ++ heard config given

theorem Follows.start {s s' : σ} (h : rest s' = rest s) :
    Follows rest notices config (notices s) (notices s') s s' :=
  ⟨h, [], (List.append_nil _).symm, by rw [heard_nil, List.append_nil]⟩

/-- A step that prints on the way does what one does that gives every notice. -/
def Prints (rest : σ → ρ) (notices : σ → List Notice) (config : Config)
    (telling printing : Step σ α) : Prop :=
  ∀ before before' s s', Follows rest notices config before before' s s' →
    RunsAlike (Follows rest notices config before before') telling printing s s'

/-- A step that gives one notice, and does nothing else. -/
def Tells (rest : σ → ρ) (notices : σ → List Notice) (x : Step σ Unit) (n : Notice) : Prop :=
  ∀ s, ∃ s₁, x.run s = (.ok ⟨⟩, s₁) ∧ rest s₁ = rest s ∧ notices s₁ = notices s ++ [n]

namespace Prints

variable {telling printing : Step σ α}

theorem pure (a : α) : Prints rest notices config (pure a) (pure a) := fun _ _ _ _ h => .pure h a

theorem throw (e : Failure) :
    Prints rest notices config (throw e : Step σ α) (MonadExcept.throw e) :=
  fun _ _ _ _ h => .throw h e

theorem bind {telling' printing' : α → Step σ β} (h : Prints rest notices config telling printing)
    (hNext : ∀ a, Prints rest notices config (telling' a) (printing' a)) :
    Prints rest notices config (telling >>= telling') (printing >>= printing') :=
  fun before before' s s' hStart =>
    (h before before' s s' hStart).bind fun a s₁ s₁' _ _ h₁ => hNext a before before' s₁ s₁' h₁

/-- A notice is printed where it is given, if the settings ask for it. -/
theorem ifVerbose {tell : Step σ Unit} {n : Notice} (hTells : Tells rest notices tell n) :
    Prints rest notices config tell (config.ifVerbose tell) := by
  rintro before before' s s' ⟨hSame, given, hGiven, hHeard⟩
  obtain ⟨s₁, hRun, hRest, hNotices⟩ := hTells s
  have hTold : notices s₁ = before ++ (given ++ [n]) := by
    rw [hNotices, hGiven, List.append_assoc]
  unfold Config.ifVerbose
  -- the notice is given to the first in any case, to the second only if the settings are verbose
  split
  case isTrue hVerbose =>
    obtain ⟨s₁', hRun', hRest', hNotices'⟩ := hTells s'
    refine .of_run hRun hRun' ⟨by rw [hRest, hRest', hSame], given ++ [n], hTold, ?_⟩
    rw [hNotices', hHeard, heard_append, List.append_assoc]
    simp only [Printing.heard, hVerbose, if_true]
  case isFalse hVerbose =>
    refine .of_run hRun (run_pure _ s') ⟨hSame.trans hRest.symm, given ++ [n], hTold, ?_⟩
    rw [hHeard]
    simp only [Printing.heard, hVerbose, Bool.false_eq_true, if_false]

end Prints

/-- What has been told before plays no part. -/
theorem Prints.unheeding {telling printing : Step σ α}
    (h : Prints rest notices config telling printing) {s s' : σ} (hSame : rest s' = rest s) :
    RunsAlike (fun t t' => rest t' = rest t) telling telling s s' := by
  -- what is printed from one state goes with what is told from either
  obtain ⟨hOutcome, hState⟩ := h _ _ s s (.start rfl)
  obtain ⟨hOutcome', hState'⟩ := h _ _ s' s (.start hSame.symm)
  exact ⟨hOutcome'.symm.trans hOutcome, hState'.same.symm.trans hState.same⟩

/-- A reading that prints on the way. -/
abbrev ReadingPrints (config : Config) (telling printing : Reading α) : Prop :=
  Prints (fun _ : List Notice => ()) id config telling printing

/-- The making of a document that prints on the way. -/
abbrev WritingPrints (config : Config) (telling printing : Writing α) : Prop :=
  Prints Progress.tally Progress.notices config telling printing

/-- A step of a conversion that prints on the way. -/
abbrev WorldPrints (config : Config) (telling printing : Step World α) : Prop :=
  Prints World.disk World.notices config telling printing

/-! ## The outline -/

theorem Prints.ofLoad (x : Load α) : ReadingPrints config (Reading.ofLoad x) (Reading.ofLoad x) :=
  fun _ _ _ _ h => ⟨rfl, h⟩

theorem Prints.tellReading (n : Notice) :
    ReadingPrints config (Reading.tell n) (config.ifVerbose (Reading.tell n)) :=
  .ifVerbose (n := n) fun _ => ⟨_, rfl, rfl, rfl⟩

theorem prints_readParts {d : Disk} {root : Path} {level : String}
    {make : String → String → List β → α} {inside inside' : Xml.Element → Reading (List β)}
    (hInside : ∀ e, ReadingPrints config (inside e) (inside' e)) (ids : List String) :
    ReadingPrints config (Course.readParts d root level make inside ids)
      (readParts config d root level make inside' ids) := by
  induction ids with
  | nil => exact .pure []
  | cons id r ih =>
    unfold Course.readParts readParts
    refine .bind (.ofLoad _) fun there => ?_
    cases there with
    | true =>
      refine .bind (.ofLoad _) fun e => ?_
      refine .bind (hInside e) fun _ => ?_
      exact .bind (.pure _) fun _ => .bind ih fun _ => .pure _
    | false =>
      refine .bind (.tellReading _) fun _ => ?_
      exact .bind (.pure _) fun _ => .bind ih fun _ => .pure _

theorem prints_readChapters (d : Disk) (root : Path) (kinds : List String) (e : Xml.Element) :
    ReadingPrints config (Course.readChapters d root kinds e)
      (readChapters config d root kinds e) :=
  prints_readParts (fun _ => prints_readParts (fun _ => prints_readParts (fun _ => .pure _) _) _) _

theorem prints_readOutline (config : Config) (d : Disk) (root : Path) (kinds : List String) :
    ReadingPrints config (Course.readOutline d root kinds) (readOutline config d root kinds) := by
  unfold Course.readOutline readOutline
  refine .bind (.ofLoad _) fun there => ?_
  cases there with
  | false => exact .throw _
  | true =>
    refine .bind (.ofLoad _) fun top => .bind (.ofLoad _) fun full => ?_
    refine .bind (prints_readChapters d root kinds full) fun chapters => ?_
    exact .bind (.tellReading _) fun _ => .pure _

/-! ## The document -/

theorem Prints.tellProgress (n : Notice) :
    WritingPrints config (tellProgress n) (config.ifVerbose (Printing.tellProgress n)) :=
  .ifVerbose (n := n) fun _ => ⟨_, rfl, rfl, rfl⟩

/-- A step that acts on the tally alone. -/
theorem Prints.of_tally {x : Writing Unit} (act : Tally → Tally)
    (h : ∀ p, x.run p = (.ok ⟨⟩, { p with tally := act p.tally })) : WritingPrints config x x := by
  rintro before before' p ⟨tally, notices⟩ ⟨hSame : tally = p.tally, hHeard⟩
  subst hSame
  exact .of_run (h p) (h ⟨p.tally, notices⟩) ⟨rfl, hHeard⟩

/-- To tell of a component that could not be written and to keep it is one step. -/
theorem withFailed_eq (ref : Reference) (message : String) :
    (modify (·.withFailed ref message) : Writing Unit) =
      tellProgress (.failedComponent ref.kind ref.id message) >>= fun _ => keepFailed ref message :=
  rfl

theorem prints_componentLines (s : Source) (index : Nat) (ref : Reference) :
    WritingPrints config (s.componentLines index ref) (componentLines config s index ref) := by
  unfold Source.componentLines componentLines
  refine .bind (.of_tally (fun t => { t with count := t.count + 1 }) fun _ => rfl) fun _ => ?_
  cases s.componentText ref with
  | ok text => exact .pure _
  | error e =>
    dsimp only
    split
    · -- what is one step there are two here, of which only the first is left to the settings
      rw [withFailed_eq, bind_assoc]
      refine .bind (.tellProgress _) fun _ => .bind ?_ fun _ => .pure _
      exact .of_tally (fun t => { t with failed := t.failed ++ [⟨ref.kind, ref.id, e.message⟩] })
        fun _ => rfl
    · exact .throw e

theorem prints_componentsLines (s : Source) (index : Nat) (refs : List Reference) :
    WritingPrints config (s.componentsLines index refs) (componentsLines config s index refs) := by
  induction refs generalizing index with
  | nil => exact .pure []
  | cons ref r ih =>
    exact .bind (prints_componentLines s index ref) fun _ => .bind (ih (index + 1)) fun _ => .pure _

theorem prints_verticalsLines (s : Source) (verticals : List Vertical) :
    WritingPrints config (s.verticalsLines verticals) (verticalsLines config s verticals) := by
  induction verticals with
  | nil => exact .pure []
  | cons v r ih =>
    exact .bind (prints_componentsLines s 1 v.components) fun _ => .bind ih fun _ => .pure _

theorem prints_sequentialTexts (s : Source) (sequentials : List Course.Sequential) :
    WritingPrints config (s.sequentialTexts sequentials)
      (sequentialTexts config s sequentials) := by
  induction sequentials with
  | nil => exact .pure []
  | cons q r ih =>
    exact .bind (prints_verticalsLines s q.verticals) fun _ => .bind ih fun _ => .pure _

theorem prints_chapterTexts (s : Source) (chapters : List Chapter) :
    WritingPrints config (s.chapterTexts chapters) (chapterTexts config s chapters) := by
  induction chapters with
  | nil => exact .pure []
  | cons c r ih =>
    exact .bind (prints_sequentialTexts s c.sequentials) fun _ => .bind ih fun _ => .pure _

theorem prints_writeDocument (config : Config) (registry : Registry) (d : Disk) (o : Outline)
    (root : Option Path) :
    WritingPrints config (Course.writeDocument config registry d o root)
      (writeDocument config registry d o root) := by
  unfold Course.writeDocument writeDocument
  cases root <|> o.root with
  | none => exact .throw _
  | some root => exact .bind (prints_chapterTexts _ o.chapters) fun _ => .pure _

/-! ## The files of a course -/

namespace Prints

variable {telling printing : Step World α}

theorem tellWorld (n : Notice) :
    WorldPrints config (World.tell n) (config.ifVerbose (World.tell n)) :=
  .ifVerbose (n := n) fun w => ⟨_, World.tell_run n w, rfl, rfl⟩

/-- A step that acts on the disk alone. -/
theorem of_disk {x : Step World α} (act : Disk → Except Failure α × Disk)
    (h : ∀ w, x.run w = ((act w.disk).1, { w with disk := (act w.disk).2 })) :
    WorldPrints config x x := by
  rintro before before' w ⟨d, notices⟩ ⟨hSame : d = w.disk, hHeard⟩
  subst hSame
  exact .of_run (h w) (h ⟨w.disk, notices⟩) ⟨rfl, hHeard⟩

theorem getDisk : WorldPrints config World.getDisk World.getDisk :=
  of_disk (fun d => (.ok d, d)) World.getDisk_run

theorem change (x : Change α) : WorldPrints config (World.change x) (World.change x) :=
  of_disk (fun d => ((x.run d).1.mapError .file, (x.run d).2)) (World.change_run x)

theorem ask (question : Disk → Except FileError α) :
    WorldPrints config (World.ask question) (World.ask question) :=
  of_disk (fun d => ((question d).mapError .file, d)) (World.ask_run question)

theorem tryCopy (source target : Path) :
    WorldPrints config (World.tryCopy source target) (World.tryCopy source target) :=
  of_disk (fun d => (.ok ((copy source target).run d).1, ((copy source target).run d).2))
    (World.tryCopy_run source target)

theorem reading {x y : Reading α} (h : ReadingPrints config x y) :
    WorldPrints config (World.reading x) (World.reading y) := by
  rintro before before' w w' ⟨hSame, hHeard⟩
  obtain ⟨hOutcome, -, hTold⟩ := h before before' w.notices w'.notices ⟨rfl, hHeard⟩
  exact ⟨hOutcome, hSame, hTold⟩

theorem attempt (h : WorldPrints config telling printing) :
    WorldPrints config (World.attempt telling) (World.attempt printing) :=
  fun before before' w w' hStart =>
    have hRuns := h before before' w w' hStart
    ⟨congrArg Except.ok hRuns.outcome, hRuns.state⟩

/-- From one disk, with nothing told before: what is printed is what is heard of all notices. -/
theorem run_eq (h : WorldPrints config telling printing) (d : Disk) :
    printing.run ⟨d, []⟩ =
      ((telling.run ⟨d, []⟩).1,
        ⟨(telling.run ⟨d, []⟩).2.disk, heard config (telling.run ⟨d, []⟩).2.notices⟩) := by
  obtain ⟨hOutcome, hDisk, given, hGiven, hHeard⟩ := h _ _ ⟨d, []⟩ ⟨d, []⟩ (.start rfl)
  rcases hTelling : telling.run ⟨d, []⟩ with ⟨outcome, told⟩
  rcases hPrinting : printing.run ⟨d, []⟩ with ⟨outcome', ⟨left, printed⟩⟩
  rw [hTelling, hPrinting] at hOutcome hDisk
  rw [hTelling] at hGiven
  rw [hPrinting] at hHeard
  obtain rfl : outcome' = outcome := hOutcome
  obtain rfl : told.notices = given := hGiven
  obtain rfl : left = told.disk := hDisk
  obtain rfl : printed = heard config told.notices := hHeard
  rfl

theorem finally_ (h : WorldPrints config telling printing) (last : Disk → Disk) :
    WorldPrints config (World.finally_ telling last) (World.finally_ printing last) :=
  fun before before' w w' hStart =>
    have hRuns := h before before' w w' hStart
    ⟨hRuns.outcome, congrArg last hRuns.state.same, hRuns.state.heard⟩

end Prints

theorem prints_writeMarkdown (config : Config) (out : Path) (markdown : String) :
    WorldPrints config (Media.writeMarkdown config out markdown)
      (writeMarkdown config out markdown) :=
  .bind (.change _) fun _ => .bind (.change _) fun _ => .bind (.tellWorld _) fun _ => .pure _

theorem prints_lookInto (source : Path) (dirs : List (List String)) :
    WorldPrints config (Media.lookInto source dirs) (Media.lookInto source dirs) := by
  induction dirs with
  | nil => exact .pure _
  | cons names r ih => exact .bind (.ask _) fun _ => ih

theorem prints_copyFiles (source target : Path) (files : List (List String)) :
    WorldPrints config (Media.copyFiles source target files)
      (copyFiles config source target files) := by
  induction files with
  | nil => exact .pure _
  | cons names r ih =>
    refine .bind (.ask _) fun isFile => ?_
    cases isFile with
    | false => exact ih
    | true =>
      refine .bind (.tryCopy _ _) fun result => ?_
      cases result with
      | error e => exact .bind (.tellWorld _) fun _ => ih
      | ok _ => exact .bind ih fun _ => .pure _

theorem prints_copyAssets (config : Config) (root out : Path) :
    WorldPrints config (Media.copyAssets config root out) (copyAssets config root out) := by
  refine .bind (.change _) fun _ => .bind (.ask _) fun there => ?_
  cases there with
  | false => exact .bind (.tellWorld _) fun _ => .pure _
  | true =>
    refine .bind .getDisk fun d => .bind (prints_lookInto _ _) fun _ => ?_
    refine .bind (prints_copyFiles _ _ _) fun copies => ?_
    -- where nothing has been copied there is no notice
    cases copies with
    | nil => exact .pure _
    | cons name r => exact .bind (.tellWorld _) fun _ => .pure _

theorem prints_unpack (config : Config) (archive destination : Path) :
    WorldPrints config (Archive.unpack archive destination)
      (unpack config archive destination) := by
  refine .bind (.change _) fun _ => .bind .getDisk fun d => ?_
  cases Archive.load d archive with
  | error e => exact .throw e
  | ok members =>
    refine .bind ?_ fun _ => .tellWorld _
    let unpackAll := Archive.unpackAll destination (Archive.wrapper? members) members
    exact .of_disk (fun d => ((unpackAll.run d).1.mapError _, (unpackAll.run d).2)) fun _ => rfl

/-! ## Conversions -/

theorem makeDocument_run (c : Converter) (o : Outline) (root : Path) (w : World) :
    (makeDocument c o root).run w =
      let written := (writeDocument c.config c.registry w.disk o (some root)).run ⟨{}, w.notices⟩
      (written.1.map (·, written.2.tally), ⟨w.disk, written.2.notices⟩) := rfl

theorem prints_makeDocument (c : Converter) (o : Outline) (root : Path) :
    WorldPrints c.config (c.makeDocument o root) (makeDocument c o root) := by
  rintro before before' w ⟨d, notices⟩ ⟨hSame, hHeard⟩
  obtain rfl : d = w.disk := hSame
  have hWritten := prints_writeDocument c.config c.registry w.disk o (some root) before before'
    ⟨{}, w.notices⟩ ⟨{}, notices⟩ ⟨rfl, hHeard⟩
  have hTelling := c.makeDocument_run o root w
  have hPrinting := makeDocument_run c o root ⟨w.disk, notices⟩
  obtain ⟨hOutcome, hTally, hTold⟩ := hWritten
  dsimp only at hTelling hPrinting
  -- the tally is part of the result, which is why it has to be the same in both
  rw [hOutcome, hTally] at hPrinting
  exact .of_run hTelling hPrinting ⟨rfl, hTold⟩

theorem prints_convertDirectory (c : Converter) (root out : Path) :
    WorldPrints c.config (c.convertDirectory root out) (convertDirectory c root out) := by
  refine .bind .getDisk fun d => .bind (.reading (.ofLoad _)) fun root' => ?_
  refine .bind (.tellWorld _) fun _ => .bind .getDisk fun d' => ?_
  refine .bind (.reading (prints_readOutline c.config d' root' _)) fun outline => ?_
  refine .bind (.tellWorld _) fun _ => .bind (prints_makeDocument c outline root') fun _ => ?_
  refine .bind (.tellWorld _) fun _ => .bind (prints_writeMarkdown _ _ _) fun _ => ?_
  exact .bind (prints_copyAssets _ _ _) fun _ => .pure _

theorem prints_convert (c : Converter) (archive out : Path) :
    WorldPrints c.config (c.convert archive out) (convert c archive out) := by
  refine .bind (.tellWorld _) fun _ => ?_
  refine .bind (.of_disk (fun d => (.ok ⟨⟩, Converter.openWorkshop d)) fun _ => rfl) fun _ => ?_
  exact .finally_ (.bind (prints_unpack _ _ _) fun _ => prints_convertDirectory c _ _) _

theorem prints_convertAll (c : Converter) (out : Path) (count index : Nat)
    (archives : List Path) :
    WorldPrints c.config (c.convertAll out count index archives)
      (convertAll c out count index archives) := by
  induction archives generalizing index with
  | nil => exact .pure []
  | cons archive r ih =>
    refine .bind (.tellWorld _) fun _ => ?_
    refine .bind (.attempt (prints_convert c archive out)) fun outcome => ?_
    cases outcome with
    | ok _ => exact .bind (ih (index + 1)) fun _ => .pure _
    | error e => exact .bind (.tellWorld _) fun _ => .bind (ih (index + 1)) fun _ => .pure _

theorem prints_convertBatch (c : Converter) (input out : Path) :
    WorldPrints c.config (c.convertBatch input out) (convertBatch c input out) := by
  refine .bind .getDisk fun d => .bind (.reading (.ofLoad _)) fun archives => ?_
  refine .bind (.change _) fun _ => .bind (.tellWorld _) fun _ => ?_
  refine .bind (prints_convertAll c out _ 1 archives) fun reports => ?_
  exact .bind (.tellWorld _) fun _ => .pure _

/-! ## Verbosity -/

/-- What verbosity does to a program: `printing` prints on the way, `telling` gives every notice. -/
structure OnlyPrints (rest : σ → ρ) (notices : σ → List Notice)
    (telling printing : Config → Step σ α) : Prop where
  /-- Settings that differ in nothing else give the same result or failure, and leave the same. -/
  alike : ∀ config verbose s s', rest s' = rest s →
    RunsAlike (fun t t' => rest t' = rest t) (printing config) (printing { config with verbose }) s s'
  /-- Nothing is printed where the settings do not ask for it. -/
  silent : ∀ config s, config.verbose = false → notices ((printing config).run s).2 = notices s
  /-- What is printed is what is heard of all notices. -/
  printed : ∀ config s s', rest s' = rest s → ∃ given,
    RunsAlike (fun t t' => rest t' = rest t ∧ notices t = notices s ++ given ∧
      notices t' = notices s' ++ heard config given) (telling config) (printing config) s s'

theorem OnlyPrints.of_prints {telling printing : Config → Step σ α}
    (h : ∀ config, Prints rest notices config (telling config) (printing config))
    (hSame : ∀ config verbose, telling { config with verbose } = telling config) :
    OnlyPrints rest notices telling printing := by
  have hRuns (config : Config) {s s' : σ} (hStart : rest s' = rest s) :=
    h config _ _ s s' (.start hStart)
  constructor
  case alike =>
    intro config verbose s s' hStart
    -- both do what the steps do that give every notice, and these are the same
    obtain ⟨hOutcome, hState⟩ := hRuns config (rfl : rest s = rest s)
    obtain ⟨hOutcome', hState'⟩ := hRuns { config with verbose } hStart
    rw [hSame] at hOutcome' hState'
    exact ⟨hOutcome'.trans hOutcome.symm, hState'.same.trans hState.same.symm⟩
  case silent =>
    intro config s hVerbose
    obtain ⟨given, -, hHeard⟩ := (hRuns config (rfl : rest s = rest s)).state.heard
    rw [hHeard, heard, hVerbose, if_neg Bool.false_ne_true, List.append_nil]
  case printed =>
    intro config s s' hStart
    obtain ⟨hOutcome, hEnd, given, hGiven, hHeard⟩ := hRuns config hStart
    exact ⟨given, hOutcome, hEnd, hGiven, hHeard⟩

/-- Archives are converted without a look at how verbose the settings are. -/
theorem convertAll_verbose (config : Config) (registry : Registry) (verbose : Bool) (out : Path)
    (count index : Nat) (archives : List Path) :
    Converter.convertAll ⟨{ config with verbose }, registry⟩ out count index archives =
      Converter.convertAll ⟨config, registry⟩ out count index archives := by
  induction archives generalizing index with
  | nil => rfl
  | cons archive r ih =>
    unfold Converter.convertAll
    simp only [ih]
    rfl

theorem convertBatch_verbose (config : Config) (registry : Registry) (verbose : Bool)
    (input out : Path) :
    Converter.convertBatch ⟨{ config with verbose }, registry⟩ input out =
      Converter.convertBatch ⟨config, registry⟩ input out := by
  unfold Converter.convertBatch
  simp only [convertAll_verbose]

/--
**Verbosity affects only what is printed.** Under two settings that differ in nothing else, reading an
outline, making a document, writing it, copying the static files, and converting a directory, an
archive or a batch end in the same way, and leave the same disk and the same tally. Settings that are
not verbose have nothing printed. The usual kinds of component do not depend on verbosity either.
-/
theorem verbosity_only_prints (registry : Registry) :
    (∀ d root kinds, OnlyPrints (fun _ : List Notice => ()) id
      (fun _ => Course.readOutline d root kinds) (readOutline · d root kinds)) ∧
    (∀ d o root, OnlyPrints Progress.tally Progress.notices
      (Course.writeDocument · registry d o root) (writeDocument · registry d o root)) ∧
    (∀ out markdown, OnlyPrints World.disk World.notices
      (Media.writeMarkdown · out markdown) (writeMarkdown · out markdown)) ∧
    (∀ root out, OnlyPrints World.disk World.notices
      (Media.copyAssets · root out) (copyAssets · root out)) ∧
    (∀ root out, OnlyPrints World.disk World.notices
      (Converter.convertDirectory ⟨·, registry⟩ root out)
      (convertDirectory ⟨·, registry⟩ root out)) ∧
    (∀ archive out, OnlyPrints World.disk World.notices
      (Converter.convert ⟨·, registry⟩ archive out) (convert ⟨·, registry⟩ archive out)) ∧
    (∀ input out, OnlyPrints World.disk World.notices
      (Converter.convertBatch ⟨·, registry⟩ input out) (convertBatch ⟨·, registry⟩ input out)) ∧
    ∀ config verbose, Registry.standard { config with verbose } = Registry.standard config := by
  refine ⟨fun d root kinds => ?_, fun d o root => ?_, fun out markdown => ?_, fun root out => ?_,
    fun root out => ?_, fun archive out => ?_, fun input out => ?_, fun _ _ => rfl⟩
  · exact .of_prints (prints_readOutline · d root kinds) fun _ _ => rfl
  · exact .of_prints (prints_writeDocument · registry d o root) fun _ _ => rfl
  · exact .of_prints (prints_writeMarkdown · out markdown) fun _ _ => rfl
  · exact .of_prints (prints_copyAssets · root out) fun _ _ => rfl
  · exact .of_prints (fun config => prints_convertDirectory ⟨config, registry⟩ root out)
      fun _ _ => rfl
  · exact .of_prints (fun config => prints_convert ⟨config, registry⟩ archive out) fun _ _ => rfl
  · exact .of_prints (fun config => prints_convertBatch ⟨config, registry⟩ input out)
      fun config verbose => convertBatch_verbose config registry verbose input out

end Printing

/-! ## The commands -/

namespace Cli

open Files Printing

/-- What is made of the notices in the end is what is heard of them. -/
theorem printed_eq_heard (config : Config) (given : List Notice) (output : List String) :
    printed config.verbose given output = (heard config given).map Notice.text ++ output := by
  unfold printed heard
  split <;> rfl

/-- The full command shows what is printed on the way, then its own lines. -/
theorem runFull_prints {line : List String} {a : Arguments}
    (hRead : Arguments.read Command.full.options line = .ok a) (w : World) :
    let config := fullConfig a
    let batch := convertBatch (.standard config) (.ofString a.input) (.ofString a.output)
    let (result, after) := batch.run ⟨w.disk, []⟩
    (runFull line w).1.output =
        after.notices.map Notice.text ++ (fullEnding config result).output ∧
      (runFull line w).2.disk = after.disk := by
  intro config batch
  have hRun := (prints_convertBatch (.standard config) (.ofString a.input)
    (.ofString a.output)).run_eq w.disk
  dsimp only [batch]
  rw [hRun]
  unfold runFull Command.withArguments
  rw [hRead]
  exact ⟨printed_eq_heard config _ _, rfl⟩

/-- So does the plain command, also where a failure ends it. -/
theorem runPlain_prints {line : List String} {a : Arguments}
    (hRead : Arguments.read Command.plain.options line = .ok a) (w : World) :
    let config : Config := { verbose := a.has .verbose }
    let batch := convertBatch (.standard config) (.ofString a.input) (.ofString a.output)
    let (result, after) := batch.run ⟨w.disk, []⟩
    let shown := after.notices.map Notice.text
    (runPlain line w).2.disk = after.disk ∧
      match result with
      | .error e => (runPlain line w).1 = .failed e shown
      | .ok reports => (runPlain line w).1 =
          .done { exitCode := exitCodeFor reports, output := shown ++ reports.map plainLine } := by
  intro config batch
  have hRun := (prints_convertBatch (.standard config) (.ofString a.input)
    (.ofString a.output)).run_eq w.disk
  dsimp only [batch]
  rw [hRun]
  unfold runPlain Command.withArguments
  rw [hRead]
  dsimp only
  rcases ((Converter.standard config).convertBatch (.ofString a.input) (.ofString a.output)).run
    ⟨w.disk, []⟩ with ⟨outcome, after⟩
  have hShown (output : List String) : printed (a.has .verbose) after.notices output =
      (heard config after.notices).map Notice.text ++ output := printed_eq_heard config _ _
  cases outcome with
  | error e => exact ⟨rfl, congrArg (PlainEnding.failed e) ((hShown []).trans (List.append_nil _))⟩
  | ok reports =>
    refine ⟨rfl, ?_⟩
    dsimp only
    rw [hShown]
    rfl

end Cli

end Coursebook
