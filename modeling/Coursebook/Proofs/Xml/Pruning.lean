import Coursebook.Proofs.Text.Runs
import Coursebook.Xml.Element
import Mathlib.Logic.Relation

/-!
# Coursebook — text around what is skipped

The text of an element without that of some elements below it is all the text of another element: the
one in which these have been taken out. Where an element is taken out, the text behind it and the text
before it become one piece, or it becomes the first text of the element around it. What stood inside
of it is nowhere left.

* `Element.pruned` — the element without what is skipped; `prunedOf_text_skipped_text`, what becomes of
  the texts around it; `Element.pruned_pruned`, there is nothing more to be skipped.
* `InsideEdit` — a change inside something that is skipped; `InsideEdit.prunedOf_eq`, pruning undoes it.
* `Element.textWithout_eq_text_pruned` — skipping is pruning, whatever stands in what is skipped, and
  what comes of it is words with single spaces between them.
-/

namespace Coursebook.Xml

open Coursebook.Text

/-! ## Pruning -/

/-- Whether an item is an element with one of the names `skip`. -/
def Item.isSkipped (skip : List String) : Item → Bool
  | .text _ => false
  | .element name _ _ => skip.contains name

/-- Puts an item before others. Texts that come to stand next to each other become one. -/
def joinText : Item → List Item → List Item
  | .text s, .text t :: r => .text (s ++ t) :: r
  | i, r => i :: r

mutual
/-- An item without the elements below it that have one of the names `skip`. -/
def Item.pruned (skip : List String) : Item → Item
  | .text s => .text s
  | .element name attributes content => .element name attributes (prunedOf skip content)

/-- Items without the elements among them and below them that have one of the names `skip`. -/
def prunedOf (skip : List String) : List Item → List Item
  | [] => []
  | i :: r =>
    if i.isSkipped skip then prunedOf skip r else joinText (i.pruned skip) (prunedOf skip r)
end

/-- An element without those below it that have one of the names `skip`. -/
def Element.pruned (e : Element) (skip : List String) : Element :=
  { e with content := prunedOf skip e.content }

variable {skip : List String} {i : Item} {r c c' : List Item}

theorem joinText_element (name : String) (attributes : List (String × String))
    (content r : List Item) :
    joinText (.element name attributes content) r = .element name attributes content :: r := by
  cases r <;> rfl

/-- An element that is skipped leaves nothing. -/
theorem prunedOf_of_isSkipped (h : i.isSkipped skip = true) (r : List Item) :
    prunedOf skip (i :: r) = prunedOf skip r := by
  rw [prunedOf, if_pos h]

theorem prunedOf_of_not_isSkipped (h : i.isSkipped skip = false) (r : List Item) :
    prunedOf skip (i :: r) = joinText (i.pruned skip) (prunedOf skip r) := by
  rw [prunedOf, if_neg (Bool.eq_false_iff.mp h)]

/-- The text behind an element that is skipped is joined to the text before it. -/
theorem prunedOf_text_skipped_text (h : i.isSkipped skip = true) (s t : String) (r : List Item) :
    prunedOf skip (.text s :: i :: .text t :: r) = prunedOf skip (.text (s ++ t) :: r) := by
  rw [prunedOf_of_not_isSkipped rfl, prunedOf_of_isSkipped h, prunedOf_of_not_isSkipped rfl,
    prunedOf_of_not_isSkipped rfl, Item.pruned, Item.pruned, Item.pruned]
  -- what comes next is text in all of these or in none
  cases prunedOf skip r with
  | nil => rfl
  | cons j r => cases j <;> simp [joinText, String.append_assoc]

/-- What comes behind some items counts only for what is left of it. -/
theorem prunedOf_append_congr (before : List Item) (h : prunedOf skip c = prunedOf skip c') :
    prunedOf skip (before ++ c) = prunedOf skip (before ++ c') := by
  induction before with
  | nil => exact h
  | cons i before ih => rw [List.cons_append, List.cons_append, prunedOf, prunedOf, ih]

/-! ## What is left -/

theorem elementsOf_joinText (i : Item) (r : List Item) :
    elementsOf (joinText i r) = i.elements ++ elementsOf r := by
  unfold joinText
  split <;> simp [elementsOf, Item.elements]

theorem textOf_joinText (i : Item) (r : List Item) :
    textOf [] (joinText i r) = i.textWithout [] ++ textOf [] r := by
  unfold joinText
  split <;> simp [textOf, Item.textWithout]

theorem Item.textWithout_of_isSkipped : ∀ {i : Item}, i.isSkipped skip = true →
    i.textWithout skip = []
  | .element .., h => if_pos (List.contains_iff_mem.mp h)

theorem Item.not_mem_of_not_isSkipped {name : String} {attributes : List (String × String)}
    {content : List Item} (h : (Item.element name attributes content).isSkipped skip = false) :
    name ∉ skip := fun hIn => Bool.eq_false_iff.mp h (List.contains_iff_mem.mpr hIn)

-- These go by recursion on items, an element and its content in turn, with two cases for the first of
-- some items: it is skipped, or pruned and put before the others.

mutual
theorem Item.not_mem_of_mem_elements_pruned : ∀ (i : Item), i.isSkipped skip = false →
    ∀ d ∈ (i.pruned skip).elements, d.name ∉ skip
  | .text _, _, _, hd => absurd hd List.not_mem_nil
  | .element name attributes content, h, d, hd => by
    rw [Item.pruned, Item.elements] at hd
    rcases List.mem_cons.mp hd with rfl | hBelow
    · exact Item.not_mem_of_not_isSkipped h
    · exact not_mem_of_mem_elementsOf_prunedOf content d hBelow

/-- No element is left that has one of the names. -/
theorem not_mem_of_mem_elementsOf_prunedOf : ∀ (c : List Item),
    ∀ d ∈ elementsOf (prunedOf skip c), d.name ∉ skip
  | [], _, hd => absurd hd List.not_mem_nil
  | i :: r, d, hd => by
    cases h : i.isSkipped skip with
    | true =>
      rw [prunedOf_of_isSkipped h] at hd
      exact not_mem_of_mem_elementsOf_prunedOf r d hd
    | false =>
      rw [prunedOf_of_not_isSkipped h, elementsOf_joinText] at hd
      rcases List.mem_append.mp hd with hFirst | hRest
      · exact i.not_mem_of_mem_elements_pruned h d hFirst
      · exact not_mem_of_mem_elementsOf_prunedOf r d hRest
end

mutual
theorem Item.textWithout_pruned : ∀ (i : Item), i.isSkipped skip = false →
    (i.pruned skip).textWithout [] = i.textWithout skip
  | .text _, _ => rfl
  | .element name attributes content, h => by
    rw [Item.pruned, Item.textWithout, Item.textWithout, if_neg List.not_mem_nil,
      if_neg (Item.not_mem_of_not_isSkipped h), textOf_prunedOf content]

/-- All text that is left is the text that is not skipped. -/
theorem textOf_prunedOf : ∀ (c : List Item), textOf [] (prunedOf skip c) = textOf skip c
  | [] => rfl
  | i :: r => by
    rw [textOf]
    cases h : i.isSkipped skip with
    | true =>
      rw [prunedOf_of_isSkipped h, Item.textWithout_of_isSkipped h, List.nil_append,
        textOf_prunedOf r]
    | false =>
      rw [prunedOf_of_not_isSkipped h, textOf_joinText, i.textWithout_pruned h, textOf_prunedOf r]
end

/-! ## Pruning twice -/

mutual
/-- Whether in an item no two texts stand next to each other. -/
def Item.IsJoined : Item → Prop
  | .text _ => True
  | .element _ _ content => AreJoined content

/-- Whether among some items and in them no two texts stand next to each other. -/
def AreJoined : List Item → Prop
  | [] => True
  | i :: r => i.IsJoined ∧ joinText i r = i :: r ∧ AreJoined r
end

theorem areJoined_joinText (hi : i.IsJoined) (hr : AreJoined r) : AreJoined (joinText i r) := by
  cases i with
  | element name attributes content =>
    rw [joinText_element]
    exact ⟨hi, joinText_element name attributes content r, hr⟩
  | text s =>
    cases r with
    | nil => exact ⟨trivial, rfl, trivial⟩
    | cons j r =>
      cases j with
      | element => exact ⟨trivial, rfl, hr⟩
      | text t =>
        obtain ⟨-, hApart, hRest⟩ := hr
        refine ⟨trivial, ?_, hRest⟩
        -- no text comes after the second one, so none comes after both in one
        cases r with
        | nil => rfl
        | cons k r =>
          cases k with
          | element => rfl
          | text u => simp [joinText] at hApart

mutual
theorem Item.isJoined_pruned : ∀ (i : Item), (i.pruned skip).IsJoined
  | .text _ => trivial
  | .element _ _ content => areJoined_prunedOf content

theorem areJoined_prunedOf : ∀ (c : List Item), AreJoined (prunedOf skip c)
  | [] => trivial
  | i :: r => by
    rw [prunedOf]
    split
    · exact areJoined_prunedOf r
    · exact areJoined_joinText i.isJoined_pruned (areJoined_prunedOf r)
end

mutual
theorem Item.pruned_eq_self : ∀ (i : Item), i.IsJoined → (∀ d ∈ i.elements, d.name ∉ skip) →
    i.pruned skip = i
  | .text _, _, _ => rfl
  | .element name attributes content, hJoined, hNone => by
    rw [Item.pruned, prunedOf_eq_self content hJoined fun d hd => hNone d (List.mem_cons_of_mem _ hd)]

/-- Where there is nothing to skip and nothing to join, all is left as it is. -/
theorem prunedOf_eq_self : ∀ (c : List Item), AreJoined c → (∀ d ∈ elementsOf c, d.name ∉ skip) →
    prunedOf skip c = c
  | [], _, _ => rfl
  | i :: r, ⟨hi, hApart, hr⟩, hNone => by
    obtain ⟨hFirst, hRest⟩ := List.forall_mem_append.mp hNone
    have hKept : i.isSkipped skip = false := by
      cases i with
      | text s => rfl
      | element name attributes content =>
        exact Bool.eq_false_iff.mpr fun h =>
          hFirst _ List.mem_cons_self (List.contains_iff_mem.mp h)
    rw [prunedOf_of_not_isSkipped hKept, i.pruned_eq_self hi hFirst, prunedOf_eq_self r hr hRest,
      hApart]
end

/-- What is left has nothing more to be skipped. -/
theorem Element.pruned_pruned (e : Element) (skip : List String) :
    (e.pruned skip).pruned skip = e.pruned skip := by
  rw [Element.pruned, Element.pruned, prunedOf_eq_self (prunedOf skip e.content)
    (areJoined_prunedOf e.content) (not_mem_of_mem_elementsOf_prunedOf e.content)]

/-! ## Changes inside what is skipped -/

/-- A change inside an element with one of the names `skip`, at any depth: it gets other attributes
and other content. -/
inductive InsideEdit (skip : List String) : List Item → List Item → Prop
  | here {name : String} (h : name ∈ skip) (before after : List Item)
      (attributes attributes' : List (String × String)) (content content' : List Item) :
      InsideEdit skip (before ++ .element name attributes content :: after)
        (before ++ .element name attributes' content' :: after)
  | within {content content' : List Item} (h : InsideEdit skip content content')
      (before after : List Item) (name : String) (attributes : List (String × String)) :
      InsideEdit skip (before ++ .element name attributes content :: after)
        (before ++ .element name attributes content' :: after)

theorem InsideEdit.prunedOf_eq (h : InsideEdit skip c c') : prunedOf skip c' = prunedOf skip c := by
  induction h with
  | @here name hName before after attributes attributes' content content' =>
    have hSkipped (attributes : List (String × String)) (content : List Item) :
        (Item.element name attributes content).isSkipped skip = true :=
      List.contains_iff_mem.mpr hName
    refine prunedOf_append_congr before ?_
    rw [prunedOf_of_isSkipped (hSkipped _ _), prunedOf_of_isSkipped (hSkipped _ _)]
  | within _ before after name attributes ih =>
    refine prunedOf_append_congr before ?_
    rw [prunedOf, prunedOf, Item.pruned, Item.pruned, ih]
    rfl

theorem prunedOf_eq_of_reflTransGen (h : Relation.ReflTransGen (InsideEdit skip) c c') :
    prunedOf skip c' = prunedOf skip c := by
  induction h with
  | refl => rfl
  | tail _ hStep ih => rw [hStep.prunedOf_eq, ih]

/-- The text of an element with some names skipped is the text of the element pruned of them, below
which none has such a name. It does not depend on what stands in what is skipped, and has neither a
blank at an end nor two together. -/
theorem Element.textWithout_eq_text_pruned (e : Element) (skip : List String) :
    e.textWithout skip = (e.pruned skip).text ∧
      (∀ d ∈ (e.pruned skip).descendants, d.name ∉ skip) ∧
      (∀ e' : Element, Relation.ReflTransGen (InsideEdit skip) e.content e'.content →
        e'.textWithout skip = e.textWithout skip) ∧
      IsSpaced (fun c => !isBlank c) (e.textWithout skip).toList ∧
      ∀ c ∈ (e.textWithout skip).toList, isBlank c = true → c = ' ' := by
  refine ⟨?_, not_mem_of_mem_elementsOf_prunedOf e.content, fun e' hEdits => ?_, ?_,
    fun c hc hBlank => ?_⟩
  · rw [Element.text, Element.textWithout, Element.textWithout, Element.pruned, textOf_prunedOf]
  · rw [Element.textWithout, Element.textWithout, ← textOf_prunedOf, ← textOf_prunedOf e.content,
      prunedOf_eq_of_reflTransGen hEdits]
  · rw [Element.textWithout, String.toList_ofList]
    exact isSpaced_collapse _
  · rw [Element.textWithout, String.toList_ofList] at hc
    rcases mem_of_mem_collapse hc with hSpace | ⟨-, hWord⟩
    · exact hSpace
    · rw [hBlank] at hWord
      cases hWord

/-- An answer with two hints in a row and one in first position further down. -/
def hintedAnswer (first : List Item) (label : String) : Element where
  name := "choice"
  content := [.text " Paris", .element "choicehint" [] first, .element "choicehint" [] [],
    .text "\n is ", .element "b" [] [.element "choicehint" [("label", label)] [.text "no"],
      .text " a city"], .text "\t"]

/-- The answer with a hint rewritten and another one relabelled: its text is what is left of both. -/
theorem hintedAnswer_textWithout :
    let e := hintedAnswer [.text "yes"] "x"
    let e' := hintedAnswer [.element "i" [] [.text "no"]] "y"
    Relation.ReflTransGen (InsideEdit ["choicehint"]) e.content e'.content ∧
      e.pruned ["choicehint"] =
        ⟨"choice", [], [.text " Paris\n is ", .element "b" [] [.text " a city"], .text "\t"]⟩ ∧
      e.textWithout ["choicehint"] = "Paris is a city" ∧
      e'.textWithout ["choicehint"] = e.textWithout ["choicehint"] := by
  intro e e'
  have hEdits : Relation.ReflTransGen (InsideEdit ["choicehint"]) e.content e'.content :=
    .head (.here (List.mem_singleton_self _) [_] _ [] [] [.text "yes"]
        [.element "i" [] [.text "no"]])
      (.head (.within (.here (List.mem_singleton_self _) [] _ [("label", "x")] [("label", "y")]
        [.text "no"] [.text "no"]) [_, _, _, _] _ "b" []) .refl)
  have hPruned : e.pruned ["choicehint"] =
      ⟨"choice", [], [.text " Paris\n is ", .element "b" [] [.text " a city"], .text "\t"]⟩ := by
    cbv
  obtain ⟨hText, -, hSame, -⟩ := e.textWithout_eq_text_pruned ["choicehint"]
  refine ⟨hEdits, hPruned, ?_, hSame e' hEdits⟩
  rw [hText, hPruned]
  cbv

end Coursebook.Xml
