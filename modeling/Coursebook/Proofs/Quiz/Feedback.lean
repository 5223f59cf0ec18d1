import Coursebook.Proofs.Text.Words
import Coursebook.Quiz.Problem

/-!
# Coursebook — other feedback

Feedback stands in a choice or in an entry of a list. A problem that differs from another one in its
feedback only is that problem with something else in the place of the feedback, so what feedback does
to a quiz is told by replacing it.

Whether an element is feedback depends on what it stands in, and so everything here is told of an item
with a mark that says whether it stands in an answer.

* `Item.refill` — an item with other feedback; `Item.feedback` — what its feedback is.
* `Item.refill_eq_self`, `Item.textWithout_refill` — where other feedback changes nothing, and where it
  does not change the text.
* `Item.le_count_refill` — where it does.
* `Item.placed_refill` — the elements that are not in feedback.
-/

namespace Coursebook

open Quiz

namespace Quiz

/-- The elements that feedback belongs to. -/
def answerNames : List String := ["choice", "option"]

/-- Whether an element with a name is feedback. -/
def isFeedback (inAnswer : Bool) (name : String) : Bool := inAnswer && feedbackNames.contains name

/-- Whether what stands in an element with a name stands in an answer. -/
def entersAnswer (inAnswer : Bool) (name : String) : Bool := inAnswer || answerNames.contains name

theorem isFeedback_of_not_mem {inAnswer : Bool} {name : String} (h : name ∉ feedbackNames) :
    isFeedback inAnswer name = false := by
  rw [isFeedback, Bool.and_eq_false_iff, Bool.eq_false_iff (b := feedbackNames.contains name), ne_eq,
    List.contains_iff_mem]
  exact .inr h

end Quiz

namespace Xml

/-! ## Replacing feedback -/

mutual
/-- An item with other feedback in the place of its own. -/
def Item.refill (other : List Item) (inAnswer : Bool) : Item → Item
  | .text s => .text s
  | .element name attributes content =>
    .element name attributes (if isFeedback inAnswer name then other
      else refillAll other (entersAnswer inAnswer name) content)

/-- Items with other feedback in the place of theirs. -/
def refillAll (other : List Item) (inAnswer : Bool) : List Item → List Item
  | [] => []
  | i :: r => i.refill other inAnswer :: refillAll other inAnswer r
end

mutual
/-- What the feedback in an item is, piece by piece. -/
def Item.feedback (inAnswer : Bool) : Item → List (List Item)
  | .text _ => []
  | .element name _ content =>
    if isFeedback inAnswer name then [content]
    else feedbackOf (entersAnswer inAnswer name) content

/-- What the feedback in items is. -/
def feedbackOf (inAnswer : Bool) : List Item → List (List Item)
  | [] => []
  | i :: r => i.feedback inAnswer ++ feedbackOf inAnswer r
end

/-- An element, and whether it stands in an answer. -/
structure Placed where
  inAnswer : Bool
  element : Element

mutual
/-- The elements of an item that do not stand in feedback. -/
def Item.placed (inAnswer : Bool) : Item → List Placed
  | .text _ => []
  | .element name attributes content =>
    ⟨inAnswer, ⟨name, attributes, content⟩⟩ :: if isFeedback inAnswer name then []
      else placedOf (entersAnswer inAnswer name) content

/-- The elements of items that do not stand in feedback. -/
def placedOf (inAnswer : Bool) : List Item → List Placed
  | [] => []
  | i :: r => i.placed inAnswer ++ placedOf inAnswer r
end

namespace Placed

/-- What the feedback in an element is. -/
def feedback (x : Placed) : List (List Item) := x.element.item.feedback x.inAnswer

/-- An element with other feedback in the place of its own. -/
def refill (other : List Item) (x : Placed) : Placed :=
  { x with element.content := if isFeedback x.inAnswer x.element.name then other
      else refillAll other (entersAnswer x.inAnswer x.element.name) x.element.content }

/-- The elements directly below an element. -/
def children (x : Placed) : List Placed :=
  x.element.children.map (⟨entersAnswer x.inAnswer x.element.name, ·⟩)

/-- The elements directly below an element that have a name. -/
def childrenNamed (x : Placed) (name : String) : List Placed :=
  x.children.filter (·.element.name == name)

end Placed

variable {other other' : List Item} {inAnswer : Bool}

/-! ## Items -/

-- All of these go by recursion on items, an element and its content in turn. An element is looked at
-- in two cases: feedback is replaced as a whole, and all else is refilled inside.

mutual
/-- Feedback that is replaced twice is what it is replaced with last. -/
theorem Item.refill_refill : ∀ (i : Item) (inAnswer : Bool),
    (i.refill other inAnswer).refill other' inAnswer = i.refill other' inAnswer
  | .text _, _ => rfl
  | .element name attributes content, inAnswer => by
    rw [Item.refill, Item.refill, Item.refill]
    by_cases h : isFeedback inAnswer name = true
    · rw [if_pos h, if_pos h]
    · rw [if_neg h, if_neg h, if_neg h, refillAll_refillAll]

theorem refillAll_refillAll : ∀ (content : List Item) (inAnswer : Bool),
    refillAll other' inAnswer (refillAll other inAnswer content) = refillAll other' inAnswer content
  | [], _ => rfl
  | i :: r, inAnswer => by
    rw [refillAll, refillAll, refillAll, i.refill_refill, refillAll_refillAll r]
end

mutual
/-- There is feedback in the same places, whatever it is. -/
theorem Item.feedback_refill : ∀ (i : Item) (inAnswer : Bool),
    (i.refill other inAnswer).feedback inAnswer = (i.feedback inAnswer).map fun _ => other
  | .text _, _ => rfl
  | .element name attributes content, inAnswer => by
    rw [Item.refill, Item.feedback, Item.feedback]
    by_cases h : isFeedback inAnswer name = true
    · rw [if_pos h, if_pos h, if_pos h, List.map_singleton]
    · rw [if_neg h, if_neg h, if_neg h, feedbackOf_refillAll]

theorem feedbackOf_refillAll : ∀ (content : List Item) (inAnswer : Bool),
    feedbackOf inAnswer (refillAll other inAnswer content) =
      (feedbackOf inAnswer content).map fun _ => other
  | [], _ => rfl
  | i :: r, inAnswer => by
    rw [refillAll, feedbackOf, feedbackOf, List.map_append, i.feedback_refill,
      feedbackOf_refillAll r]
end

mutual
/-- Without feedback there is nothing to replace. -/
theorem Item.refill_eq_self : ∀ (i : Item) {inAnswer : Bool}, i.feedback inAnswer = [] →
    i.refill other inAnswer = i
  | .text _, _, _ => rfl
  | .element name attributes content, inAnswer, hNone => by
    rw [Item.feedback] at hNone
    by_cases h : isFeedback inAnswer name = true
    · rw [if_pos h] at hNone
      cases hNone
    · rw [if_neg h] at hNone
      rw [Item.refill, if_neg h, refillAll_eq_self content hNone]

theorem refillAll_eq_self : ∀ (content : List Item) {inAnswer : Bool},
    feedbackOf inAnswer content = [] → refillAll other inAnswer content = content
  | [], _, _ => rfl
  | i :: r, inAnswer, hNone => by
    rw [feedbackOf, List.append_eq_nil_iff] at hNone
    rw [refillAll, i.refill_eq_self hNone.1, refillAll_eq_self r hNone.2]
end

mutual
/-- In an answer, feedback is no part of the text. -/
theorem Item.textWithout_refill : ∀ i : Item,
    (i.refill other true).textWithout feedbackNames = i.textWithout feedbackNames
  | .text _ => rfl
  | .element name attributes content => by
    rw [Item.refill, Item.textWithout, Item.textWithout]
    by_cases h : name ∈ feedbackNames
    · rw [if_pos h, if_pos h]
    · rw [if_neg h, if_neg h, isFeedback_of_not_mem h]
      exact textOf_refillAll content

theorem textOf_refillAll : ∀ content : List Item,
    textOf feedbackNames (refillAll other true content) = textOf feedbackNames content
  | [] => rfl
  | i :: r => by
    rw [refillAll, textOf, textOf, i.textWithout_refill, textOf_refillAll r]
end

mutual
/-- Where all text counts, that of feedback does. -/
theorem Item.le_count_refill {c : Char} {n : Nat}
    (hOther : n ≤ (textOf [] other).count c) : ∀ (i : Item) {inAnswer : Bool},
    i.feedback inAnswer ≠ [] → n ≤ ((i.refill other inAnswer).textWithout []).count c
  | .text _, _, hSome => absurd rfl hSome
  | .element name attributes content, inAnswer, hSome => by
    rw [Item.feedback] at hSome
    rw [Item.refill, Item.textWithout, if_neg List.not_mem_nil]
    by_cases h : isFeedback inAnswer name = true
    · rwa [if_pos h]
    · rw [if_neg h] at hSome ⊢
      exact le_count_refillAll hOther content hSome

theorem le_count_refillAll {c : Char} {n : Nat} (hOther : n ≤ (textOf [] other).count c) :
    ∀ (content : List Item) {inAnswer : Bool}, feedbackOf inAnswer content ≠ [] →
      n ≤ (textOf [] (refillAll other inAnswer content)).count c
  | [], _, hSome => absurd rfl hSome
  | i :: r, inAnswer, hSome => by
    rw [refillAll, textOf, List.count_append]
    rw [feedbackOf, ne_eq, List.append_eq_nil_iff, not_and_or] at hSome
    rcases hSome with hFirst | hRest
    · have := i.le_count_refill hOther hFirst
      omega
    · have := le_count_refillAll hOther r hRest
      omega
end

mutual
/-- The elements that are not in feedback are the same, with other feedback in them. -/
theorem Item.placed_refill : ∀ (i : Item) (inAnswer : Bool),
    (i.refill other inAnswer).placed inAnswer = (i.placed inAnswer).map (Placed.refill other)
  | .text _, _ => rfl
  | .element name attributes content, inAnswer => by
    have hHead : Placed.refill other ⟨inAnswer, ⟨name, attributes, content⟩⟩ =
        ⟨inAnswer, ⟨name, attributes, if isFeedback inAnswer name then other
          else refillAll other (entersAnswer inAnswer name) content⟩⟩ := rfl
    rw [Item.refill, Item.placed, Item.placed, List.map_cons, hHead]
    by_cases h : isFeedback inAnswer name = true
    · rw [if_pos h, if_pos h, if_pos h, List.map_nil]
    · rw [if_neg h, if_neg h, if_neg h, placedOf_refillAll]

theorem placedOf_refillAll : ∀ (content : List Item) (inAnswer : Bool),
    placedOf inAnswer (refillAll other inAnswer content) =
      (placedOf inAnswer content).map (Placed.refill other)
  | [], _ => rfl
  | i :: r, inAnswer => by
    rw [refillAll, placedOf, placedOf, List.map_append, i.placed_refill, placedOf_refillAll r]
end

mutual
/-- The elements that are in feedback are those of the feedback. -/
theorem Item.filter_elements {p : Element → Bool} : ∀ (i : Item) {inAnswer : Bool},
    (∀ content ∈ i.feedback inAnswer, ∀ e ∈ elementsOf content, p e = false) →
      i.elements.filter p = ((i.placed inAnswer).map Placed.element).filter p
  | .text _, _, _ => rfl
  | .element name attributes content, inAnswer, hNone => by
    rw [Item.feedback] at hNone
    rw [Item.elements, Item.placed, List.map_cons, List.filter_cons, List.filter_cons]
    by_cases h : isFeedback inAnswer name = true
    · rw [if_pos h, List.forall_mem_singleton] at hNone
      have hContent : (elementsOf content).filter p = [] :=
        List.filter_eq_nil_iff.mpr fun e he => Bool.eq_false_iff.mp (hNone e he)
      rw [if_pos h, hContent]
      rfl
    · rw [if_neg h] at hNone
      rw [if_neg h, filter_elementsOf content hNone]

theorem filter_elementsOf {p : Element → Bool} : ∀ (content : List Item) {inAnswer : Bool},
    (∀ piece ∈ feedbackOf inAnswer content, ∀ e ∈ elementsOf piece, p e = false) →
      (elementsOf content).filter p = ((placedOf inAnswer content).map Placed.element).filter p
  | [], _, _ => rfl
  | i :: r, inAnswer, hNone => by
    rw [feedbackOf, List.forall_mem_append] at hNone
    rw [elementsOf, placedOf, List.map_append, List.filter_append, List.filter_append,
      i.filter_elements hNone.1, filter_elementsOf r hNone.2]
end

/-! ## Elements -/

namespace Placed

variable {x : Placed} {name : String}

theorem feedback_refill : (x.refill other).feedback = x.feedback.map fun _ => other :=
  x.element.item.feedback_refill x.inAnswer

/-- An element that has no feedback is the same with other feedback. -/
theorem refill_eq_self (h : x.feedback = []) : x.refill other = x := by
  have hItem : (x.refill other).element.item = x.element.item := x.element.item.refill_eq_self h
  obtain ⟨inAnswer, e⟩ := x
  obtain ⟨hName, hAttributes, hContent⟩ := Item.element.inj hItem
  show (⟨inAnswer, ⟨_, _, _⟩⟩ : Placed) = ⟨inAnswer, ⟨_, _, _⟩⟩
  exact congrArg _ (congrArg _ hContent)

theorem filterMap_refillAll (content : List Item) (inAnswer : Bool) :
    (refillAll other inAnswer content).filterMap Item.element? =
      (content.filterMap Item.element?).map fun e => (refill other ⟨inAnswer, e⟩).element := by
  induction content with
  | nil => rfl
  | cons i r ih =>
    cases i with
    | text s => exact ih
    | element name attributes content => exact congrArg (_ :: ·) ih

theorem children_refill (h : isFeedback x.inAnswer x.element.name = false) :
    (x.refill other).children = x.children.map (Placed.refill other) := by
  obtain ⟨inAnswer, name, attributes, content⟩ := x
  show List.map _ (List.filterMap Item.element? (if isFeedback inAnswer name then other
    else refillAll other (entersAnswer inAnswer name) content)) = _
  rw [if_neg (Bool.eq_false_iff.mp h), filterMap_refillAll, children, List.map_map, List.map_map]
  rfl

theorem map_element_childrenNamed (x : Placed) (name : String) :
    (x.childrenNamed name).map Placed.element = x.element.childrenNamed name := by
  have hElements : x.children.map Placed.element = x.element.children := by
    rw [children, List.map_map]
    exact List.map_id _
  rw [childrenNamed, Element.childrenNamed, ← hElements, List.filter_map]
  rfl

theorem name_of_mem_childrenNamed {child : Placed} (h : child ∈ x.childrenNamed name) :
    child.element.name = name :=
  beq_iff_eq.mp (List.mem_filter.mp h).2

theorem childrenNamed_refill (h : isFeedback x.inAnswer x.element.name = false) (name : String) :
    (x.refill other).childrenNamed name = (x.childrenNamed name).map (Placed.refill other) := by
  rw [childrenNamed, children_refill h, List.filter_map]
  rfl

/-- The elements two levels below an element, if what is between is no feedback. -/
theorem grandchildren_refill (h : isFeedback x.inAnswer x.element.name = false) {outer : String}
    (hOuter : outer ∉ feedbackNames) (inner : String) :
    ((x.refill other).childrenNamed outer).flatMap (·.childrenNamed inner) =
      ((x.childrenNamed outer).flatMap (·.childrenNamed inner)).map (Placed.refill other) := by
  rw [childrenNamed_refill h, List.flatMap_map, List.map_flatMap]
  refine List.flatMap_congr fun child hChild => childrenNamed_refill ?_ inner
  rw [name_of_mem_childrenNamed hChild]
  exact isFeedback_of_not_mem hOuter

/-- Feedback is no part of the text of an answer. -/
theorem answerText_refill (other : List Item) (h : isFeedback x.inAnswer x.element.name = false)
    (hAnswer : x.element.name ∈ answerNames) :
    (x.refill other).element.textWithout feedbackNames = x.element.textWithout feedbackNames := by
  have hEnters : entersAnswer x.inAnswer x.element.name = true := by
    rw [entersAnswer, List.contains_iff_mem.mpr hAnswer, Bool.or_true]
  show String.ofList (Text.collapse (textOf feedbackNames (if isFeedback _ _ then other
    else refillAll other _ x.element.content))) = _
  rw [if_neg (Bool.eq_false_iff.mp h), hEnters, textOf_refillAll]
  rfl

/-- It is part of all text of an element. -/
theorem le_count_text_refill {c : Char} {n : Nat} (hOther : n ≤ (textOf [] other).count c)
    (hBlank : Text.isBlank c = false) (h : x.feedback ≠ []) :
    n ≤ (x.refill other).element.text.toList.count c := by
  have hItem : (x.element.item.refill other x.inAnswer).textWithout [] =
      textOf [] (x.refill other).element.content := by
    show Item.textWithout [] (.element _ _ _) = _
    rw [Item.textWithout, if_neg List.not_mem_nil]
    rfl
  rw [Element.text, Element.textWithout, String.toList_ofList, Text.count_collapse hBlank, ← hItem]
  exact x.element.item.le_count_refill hOther h

end Placed

end Xml

end Coursebook
