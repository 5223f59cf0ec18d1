import Coursebook.Proofs.Text.Respacing
import Coursebook.Xml.Element
import Mathlib.Data.List.Forall2

/-!
# Coursebook — elements of one shape

Two elements are alike if they have the same names in the same places. What may differ are their texts
and their attributes, each by some relation. What is found in one of them by name alone is found in the
other in the same places, and if the texts differ only in their layout, both are the same in words.

* `Item.Alike`, `Element.Alike` — items and elements of one shape.
* `Element.Alike.preorder` — the elements in them, one by one.
* `Element.Alike.textWithout_eq` — the words in them.
-/

namespace Coursebook.Xml

open Coursebook.Text

/-- The attributes of an element. -/
abbrev Attributes := List (String × String)

/-- Items with the same names in the same places, where texts are related by `T` and attributes by
`A`. -/
inductive Item.Alike (T : String → String → Prop) (A : Attributes → Attributes → Prop) :
    Item → Item → Prop
  | text {s s' : String} (h : T s s') : Item.Alike T A (.text s) (.text s')
  | element (name : String) {attributes attributes' : Attributes} {content content' : List Item}
      (hAttributes : A attributes attributes')
      (hContent : List.Forall₂ (Item.Alike T A) content content') :
      Item.Alike T A (.element name attributes content) (.element name attributes' content')

/-- Elements with the same name that hold the same names in the same places. -/
structure Element.Alike (T : String → String → Prop) (A : Attributes → Attributes → Prop)
    (e e' : Element) : Prop where
  name : e.name = e'.name
  attributes : A e.attributes e'.attributes
  content : List.Forall₂ (Item.Alike T A) e.content e'.content

/-- Whether texts that are related differ in their layout at most. -/
def IsLayout (T : String → String → Prop) : Prop :=
  ∀ {s s' : String}, T s s' → Respaced s.toList s'.toList

theorem isLayout_eq : IsLayout Eq := fun {s _} h => h ▸ Respaced.refl s.toList

variable {T : String → String → Prop} {A : Attributes → Attributes → Prop} {e e' : Element}
  {i i' : Item} {content content' : List Item} {es es' : List Element}

/-! ## Lists -/

section

variable {α β : Type} {R : α → α → Prop} {l l' : List α}

theorem forall₂_filter {p : α → Bool} (hp : ∀ x x', R x x' → p x = p x')
    (h : List.Forall₂ R l l') : List.Forall₂ R (l.filter p) (l'.filter p) :=
  List.rel_filter (fun x x' hR => by
    show p x = true ↔ p x' = true
    rw [hp x x' hR]) h

/-- What is written member by member is the same for two lists if it is for their members. -/
theorem map_eq_of_forall₂ {f g : α → β} (hf : ∀ x x', R x x' → f x = g x')
    (h : List.Forall₂ R l l') : l.map f = l'.map g :=
  List.forall₂_eq_eq_eq ▸ List.rel_map hf h

theorem flatMap_eq_of_forall₂ {f g : α → List β} (hf : ∀ x x', R x x' → f x = g x')
    (h : List.Forall₂ R l l') : l.flatMap f = l'.flatMap g := by
  rw [List.flatMap_def, List.flatMap_def, map_eq_of_forall₂ hf h]

end

/-! ## Elements, one by one -/

mutual
theorem Item.Alike.elements : ∀ {i i' : Item}, Item.Alike T A i i' →
    List.Forall₂ (Element.Alike T A) i.elements i'.elements
  | .text _, .text _, _ => .nil
  | .element _ _ _, .element _ _ _, .element _ hAttributes hContent =>
    .cons ⟨rfl, hAttributes, hContent⟩ (alike_elementsOf hContent)

/-- The elements of items of one shape are alike, in document order. -/
theorem alike_elementsOf : ∀ {content content' : List Item},
    List.Forall₂ (Item.Alike T A) content content' →
      List.Forall₂ (Element.Alike T A) (elementsOf content) (elementsOf content')
  | [], [], _ => .nil
  | _ :: _, _ :: _, .cons hFirst hRest =>
    List.rel_append hFirst.elements (alike_elementsOf hRest)
end

theorem Item.Alike.element? (h : Item.Alike T A i i') :
    Option.Rel (Element.Alike T A) i.element? i'.element? := by
  cases h with
  | text => exact .none
  | element name hAttributes hContent => exact .some ⟨rfl, hAttributes, hContent⟩

/-- Among elements that are alike, those of a name are the same ones. -/
theorem alike_filter (h : List.Forall₂ (Element.Alike T A) es es') (p : String → Bool) :
    List.Forall₂ (Element.Alike T A) (es.filter (p ·.name)) (es'.filter (p ·.name)) :=
  forall₂_filter (fun _ _ hLike => by rw [hLike.name]) h

theorem alike_isEmpty (h : List.Forall₂ (Element.Alike T A) es es') : es.isEmpty = es'.isEmpty := by
  cases h <;> rfl

/-- The first of a name is in the same place, if there is one. -/
theorem alike_find? (h : List.Forall₂ (Element.Alike T A) es es') (p : String → Bool) :
    Option.Rel (Element.Alike T A) (es.find? (p ·.name)) (es'.find? (p ·.name)) := by
  induction h with
  | nil => exact .none
  | @cons e e' r r' hFirst _ ih =>
    rw [List.find?_cons, List.find?_cons, ← hFirst.name]
    cases p e.name with
    | true => exact .some hFirst
    | false => exact ih

namespace Element.Alike

theorem children (h : Element.Alike T A e e') :
    List.Forall₂ (Element.Alike T A) e.children e'.children :=
  List.rel_filterMap (fun _ _ hLike => hLike.element?) h.content

theorem childrenNamed (h : Element.Alike T A e e') (name : String) :
    List.Forall₂ (Element.Alike T A) (e.childrenNamed name) (e'.childrenNamed name) :=
  alike_filter h.children (· == name)

theorem descendants (h : Element.Alike T A e e') :
    List.Forall₂ (Element.Alike T A) e.descendants e'.descendants := alike_elementsOf h.content

theorem preorder (h : Element.Alike T A e e') :
    List.Forall₂ (Element.Alike T A) e.preorder e'.preorder := .cons h h.descendants

theorem descendants_names (h : Element.Alike T A e e') :
    e.descendants.map Element.name = e'.descendants.map Element.name :=
  map_eq_of_forall₂ (fun _ _ hLike => hLike.name) h.descendants

theorem hasDescendant_eq (h : Element.Alike T A e e') (name : String) :
    e.hasDescendant name = e'.hasDescendant name := by
  have hNames (d : Element) :
      d.hasDescendant name = (d.descendants.map Element.name).any (· == name) := by
    rw [List.any_map]
    rfl
  rw [hNames, hNames, h.descendants_names]

end Element.Alike

/-! ## Texts -/

mutual
theorem Item.Alike.respaced (hT : IsLayout T) (skip : List String) : ∀ {i i' : Item},
    Item.Alike T A i i' → Respaced (i.textWithout skip) (i'.textWithout skip)
  | .text _, .text _, .text h => hT h
  | .element name _ _, .element _ _ _, .element _ _ hContent => by
    rw [Item.textWithout, Item.textWithout]
    by_cases hSkipped : name ∈ skip
    · rw [if_pos hSkipped, if_pos hSkipped]
      exact .nil
    · rw [if_neg hSkipped, if_neg hSkipped]
      exact respaced_textOf hT skip hContent

/-- In items of one shape, whose texts differ in their layout, all text differs in its layout. -/
theorem respaced_textOf (hT : IsLayout T) (skip : List String) : ∀ {content content' : List Item},
    List.Forall₂ (Item.Alike T A) content content' →
      Respaced (textOf skip content) (textOf skip content')
  | [], [], _ => .nil
  | _ :: _, _ :: _, .cons hFirst hRest =>
    (hFirst.respaced hT skip).append (respaced_textOf hT skip hRest)
end

/-- The words of an element do not depend on the layout of its texts. -/
theorem Element.Alike.textWithout_eq (hT : IsLayout T) (skip : List String)
    (h : Element.Alike T A e e') : e.textWithout skip = e'.textWithout skip := by
  rw [Element.textWithout, Element.textWithout, (respaced_textOf hT skip h.content).collapse_eq]

theorem Element.Alike.text_eq (hT : IsLayout T) (h : Element.Alike T A e e') : e.text = e'.text :=
  h.textWithout_eq hT []

end Coursebook.Xml
