import Coursebook.Proofs.Text.Runs
import Coursebook.Quiz.Problem

/-!
# Coursebook — entries listed in an attribute

An element may list the entries of a list that drops down in one of its attributes, such as
`('red',"don't know")`. Each name stands between two quotes of one kind, and the author takes the kind
that does not stand in the name. What else stands in the attribute is free, as long as there is no quote
in it. A scan from left to right then never takes a quote for another one: before a name it passes over
text without quotes, and inside of a name it looks for the one quote that cannot be there.

* `Listed` — a name as it is listed.
* `quotedNames_listed` — what the scan finds in names that are listed.
* `listedOptions_eq_names` — the entries are the names that the author has listed, in their order, and
  the right ones are those that the other attribute names.
-/

namespace Coursebook.Quiz

open Coursebook.Xml

/-- Whether there is no quote of either kind in a text. -/
def Unquoted (s : List Char) : Prop := '\'' ∉ s ∧ '"' ∉ s

instance (s : List Char) : Decidable (Unquoted s) := inferInstanceAs (Decidable (_ ∧ _))

/-- A name between quotes that do not stand in it, and the text behind it, up to the next name. -/
structure Listed where
  quote : Char
  name : List Char
  gap : List Char
  isQuote : quote = '\'' ∨ quote = '"' := by decide
  quote_not_mem : quote ∉ name := by decide
  unquoted_gap : Unquoted gap := by decide

/-- A name as it is written. -/
def Listed.text (x : Listed) : List Char := x.quote :: x.name ++ x.quote :: x.gap

/-! ## The scan -/

/-- A text without quotes is passed over. -/
theorem quotedNames_append {s : List Char} (h : Unquoted s) (r : List Char) :
    quotedNames (s ++ r) = quotedNames r := by
  induction s with
  | nil => rfl
  | cons c s ih =>
    obtain ⟨hSingle, hDouble⟩ := h
    rw [List.mem_cons, not_or] at hSingle hDouble
    have hNone : ¬ ((c = '\'' ∨ c = '"') ∧ (s ++ r).contains c) := by
      rintro ⟨hc | hc, -⟩
      · exact hSingle.1 hc.symm
      · exact hDouble.1 hc.symm
    rw [List.cons_append, quotedNames, if_neg hNone]
    exact ih ⟨hSingle.2, hDouble.2⟩

/-- From an opening quote on, the scan takes the name up to the closing one, and goes on behind that. -/
theorem quotedNames_name {quote : Char} (hQuote : quote = '\'' ∨ quote = '"') {name : List Char}
    (hName : quote ∉ name) (r : List Char) :
    quotedNames (quote :: name ++ quote :: r) = name :: quotedNames r := by
  have hKept : ∀ c ∈ name, (c != quote) = true := fun c hc =>
    bne_iff_ne.mpr fun hSame => hName (hSame ▸ hc)
  have hEnd : (quote != quote) = false := bne_self_eq_false quote
  have hClosed : (name ++ quote :: r).contains quote = true := by simp
  rw [List.cons_append, quotedNames, if_pos ⟨hQuote, hClosed⟩,
    Text.takeWhile_append_cons hKept hEnd, Text.dropWhile_append_cons hKept hEnd]
  rfl

/-- Names that are listed are found in their order, and nothing else is. -/
theorem quotedNames_listed {lead : List Char} (hLead : Unquoted lead) (names : List Listed) :
    quotedNames (lead ++ names.flatMap Listed.text) = names.map Listed.name := by
  rw [quotedNames_append hLead]
  induction names with
  | nil =>
    rw [List.flatMap_nil, quotedNames]
    rfl
  | cons x r ih =>
    have hText : (x :: r).flatMap Listed.text =
        x.quote :: x.name ++ x.quote :: (x.gap ++ r.flatMap Listed.text) := by
      simp [Listed.text]
    rw [hText, quotedNames_name x.isQuote x.quote_not_mem, quotedNames_append x.unquoted_gap, ih]
    rfl

/-! ## The entries -/

/-- An element that lists names has these as its entries, in this order, and the right ones are those
that it names as correct; without that attribute it names the empty one. -/
theorem listedOptions_eq_names (e : Element) {lead : List Char} (hLead : Unquoted lead)
    (names : List Listed)
    (hOptions : e.attribute? "options" = some (.ofList (lead ++ names.flatMap Listed.text))) :
    (listedOptions e).map Prod.fst = names.map (fun x => String.ofList x.name) ∧
      ∀ o ∈ listedOptions e, o.2 = true ↔ o.1 = (e.attribute? "correct").getD "" := by
  have hNames : quotedNames ((e.attribute? "options").getD "").toList = names.map Listed.name := by
    rw [hOptions, Option.getD_some, String.toList_ofList, quotedNames_listed hLead]
  unfold listedOptions
  dsimp only
  rw [hNames]
  constructor
  · rw [List.map_map, List.map_map]
    rfl
  · intro o ho
    obtain ⟨name, -, rfl⟩ := List.mem_map.mp ho
    exact beq_iff_eq

/-- Both kinds of quotes, quotes of the other kind in names, names side by side, and an empty one. -/
theorem mixed_quotes_listed :
    let names : List Listed := [⟨'\'', "a \"b\"".toList, [], by decide, by decide, by decide⟩,
      ⟨'"', "c'd".toList, ", ".toList, by decide, by decide, by decide⟩,
      ⟨'"', [], [')'], by decide, by decide, by decide⟩]
    let e : Element := ⟨"optioninput", [("options", "('a \"b\"'\"c'd\", \"\")"), ("correct", "c'd")], []⟩
    Unquoted ['('] ∧
      e.attribute? "options" = some (.ofList (['('] ++ names.flatMap Listed.text)) ∧
      (listedOptions e).map Prod.fst = ["a \"b\"", "c'd", ""] ∧
      ∀ o ∈ listedOptions e, o.2 = true ↔ o.1 = "c'd" := by
  intro names e
  have hLead : Unquoted ['('] := by decide
  have hOptions : e.attribute? "options" =
      some (.ofList (['('] ++ names.flatMap Listed.text)) := by decide +kernel
  exact ⟨hLead, hOptions, listedOptions_eq_names e hLead names hOptions⟩

end Coursebook.Quiz
