import Coursebook.Proofs.Course.Collection
import Coursebook.Proofs.Course.Damage
import Coursebook.Proofs.Course.Document
import Coursebook.Proofs.Course.Structure

/-!
# Coursebook — what a course comes to

From the element that describes a course its parts are reached level by level, each time by way of the
files that are there. An outline has one part for each reference that is come to, and refers to one
component for each element that stands for one; so what it holds can be counted in the files.

* `flatMap_parts` — what is told of the parts of a level, told of the elements in their files.
* `IsOutline.length_chapters` and so on — how many parts of each level there are.
* `IsOutline.references_eq`, `length_flatMap_collect` — the components.
-/

namespace Coursebook.Course

open Coursebook.Files

/-! ## Elements by level -/

/-- The elements in the files of the parts of a level that an element refers to, for each reference
that leads to a file. -/
def partElements (d : Disk) (root : Path) (level : String) (e : Xml.Element) : List Xml.Element :=
  (partIds e level).filterMap fun id => element? d (partPath root level id)

/-- The elements that are reached from others, one level down. An element stands here once for each
reference that leads to it. -/
def reached (d : Disk) (root : Path) (level : String) (es : List Xml.Element) : List Xml.Element :=
  es.flatMap (partElements d root level)

/-- The number of references in some elements to parts of a level, each with a name. -/
def referenceCount (level : String) (es : List Xml.Element) : Nat :=
  (es.flatMap (·.childrenNamed level)).countP fun r => (r.filled? "url_name").isSome

/-- The number of children of some elements that stand for components of some kinds. -/
def componentCount (kinds : List String) (es : List Xml.Element) : Nat :=
  (es.flatMap (·.children)).countP fun c => decide (c.name ∈ kinds)

theorem length_flatMap_partIds (level : String) (es : List Xml.Element) :
    (es.flatMap (partIds · level)).length = referenceCount level es := by
  have hIds : es.flatMap (partIds · level) =
      (es.flatMap (·.childrenNamed level)).filterMap (·.filled? "url_name") := by
    rw [List.filterMap_flatMap]
    rfl
  rw [hIds, List.length_filterMap_eq_countP, referenceCount]

/-! ## Components -/

theorem length_collect (e : Xml.Element) :
    (collect knownKinds e).length = componentCount knownKinds [e] := by
  have hKinds : knownKinds.Nodup := by decide
  have hNames : ∀ kind ∈ knownKinds, Xml.isName kind = true ∧ Text.lower kind = kind := by decide
  rw [collect_of_isName hNames, flatMap_filter_eq_mergeSort hKinds Xml.Element.name, List.length_map,
    List.length_mergeSort, ← List.countP_eq_length_filter, componentCount, List.flatMap_singleton]

/-- As many components are referred to as there are children that stand for one. -/
theorem length_flatMap_collect (es : List Xml.Element) :
    (es.flatMap (collect knownKinds)).length = componentCount knownKinds es := by
  induction es with
  | nil => rfl
  | cons e r ih =>
    rw [List.flatMap_cons, List.length_append, ih, length_collect, componentCount, componentCount,
      componentCount, ← List.countP_append, List.flatMap_singleton, List.flatMap_cons]

/-! ## Outlines -/

section

variable {α β γ : Type} {d : Disk} {root : Path} {level : String}
  {make : String → String → List β → α} {holds : Xml.Element → List β → Prop} {ids : List String}
  {parts : List α}

/-- The parts of a level have the ids that they are referred to by. -/
theorem ids_parts (hParts : List.Forall₂ (IsPart d root level make holds) ids parts)
    {idOf : α → String} (hId : ∀ id title bs, idOf (make id title bs) = id) :
    parts.map idOf = ids := by
  induction hParts with
  | nil => rfl
  | cons hPart _ ih =>
    rw [List.map_cons, ih]
    cases hPart with
    | missing => rw [hId]
    | present => rw [hId]

/-- What a list of things is for each part that there is a file of, is told of the elements in these
files. -/
theorem flatMap_parts (hParts : List.Forall₂ (IsPart d root level make holds) ids parts)
    {f : α → List γ} {g : Xml.Element → List γ} (hEmpty : ∀ id title, f (make id title []) = [])
    (hHolds : ∀ e bs, holds e bs → ∀ id title, f (make id title bs) = g e) :
    parts.flatMap f = (ids.filterMap fun id => element? d (partPath root level id)).flatMap g := by
  induction hParts with
  | nil => rfl
  | @cons id _ _ _ hPart _ ih =>
    rw [List.flatMap_cons, ih]
    cases hPart with
    | missing hGone =>
      have hNone : element? d (partPath root level id) = none := by rw [element?, hGone]
      simp only [hEmpty, List.nil_append, List.filterMap_cons, hNone]
    | @present e bs hThere hRead hInside =>
      have hSome : element? d (partPath root level id) = some e := by
        rw [element?, hThere, hRead]
        rfl
      simp only [hHolds e bs hInside, List.filterMap_cons, hSome, List.flatMap_cons]

end

section

variable {d : Disk} {root : Path} {kinds : List String} {e : Xml.Element}

theorem HasVerticals.references_eq {vs : List Vertical} (h : HasVerticals d root kinds e vs) :
    vs.flatMap (·.components) = (partElements d root "vertical" e).flatMap (collect kinds) :=
  flatMap_parts h (fun _ _ => rfl) fun _ _ hRefs _ _ => hRefs

theorem HasVerticals.ids {vs : List Vertical} (h : HasVerticals d root kinds e vs) :
    vs.map (·.id) = partIds e "vertical" :=
  ids_parts h fun _ _ _ => rfl

theorem HasSequentials.ids {qs : List Sequential} (h : HasSequentials d root kinds e qs) :
    qs.map (·.id) = partIds e "sequential" :=
  ids_parts h fun _ _ _ => rfl

theorem HasSequentials.references_eq {qs : List Sequential} (h : HasSequentials d root kinds e qs) :
    qs.flatMap Sequential.references =
      (partElements d root "sequential" e).flatMap fun e =>
        (partElements d root "vertical" e).flatMap (collect kinds) :=
  flatMap_parts h (fun _ _ => rfl) fun _ _ hVerticals _ _ => hVerticals.references_eq

theorem HasSequentials.vertical_ids {qs : List Sequential} (h : HasSequentials d root kinds e qs) :
    (qs.flatMap fun q => q.verticals.map (·.id)) =
      (partElements d root "sequential" e).flatMap (partIds · "vertical") :=
  flatMap_parts h (fun _ _ => rfl) fun _ _ hVerticals _ _ => hVerticals.ids

end

namespace IsOutline

variable {d : Disk} {root : Path} {kinds : List String} {top full : Xml.Element} {o : Outline}

theorem length_chapters (h : IsOutline d root kinds top full o) :
    o.chapters.length = referenceCount "chapter" [full] := by
  have hIds : o.chapters.map (·.id) = partIds full "chapter" :=
    ids_parts h.chapters fun _ _ _ => rfl
  rw [← length_flatMap_partIds, List.flatMap_singleton, ← hIds, List.length_map]

theorem length_sequentials (h : IsOutline d root kinds top full o) :
    o.sequentials.length = referenceCount "sequential" (reached d root "chapter" [full]) := by
  have hIds : (o.chapters.flatMap fun c => c.sequentials.map (·.id)) =
      (partElements d root "chapter" full).flatMap (partIds · "sequential") :=
    flatMap_parts h.chapters (fun _ _ => rfl) fun _ _ hSequentials _ _ => hSequentials.ids
  rw [← length_flatMap_partIds, reached, List.flatMap_singleton, ← hIds, Outline.sequentials,
    ← List.map_flatMap, List.length_map]

theorem length_verticals (h : IsOutline d root kinds top full o) :
    o.verticals.length = referenceCount "vertical"
      (reached d root "sequential" (reached d root "chapter" [full])) := by
  have hIds : (o.chapters.flatMap fun c => c.sequentials.flatMap fun q => q.verticals.map (·.id)) =
      (partElements d root "chapter" full).flatMap fun e =>
        (partElements d root "sequential" e).flatMap (partIds · "vertical") :=
    flatMap_parts h.chapters (fun _ _ => rfl) fun _ _ hSequentials _ _ => hSequentials.vertical_ids
  rw [← length_flatMap_partIds, reached, reached, List.flatMap_singleton, List.flatMap_assoc, ← hIds,
    Outline.verticals, Outline.sequentials]
  simp only [← List.map_flatMap, List.length_map, List.flatMap_assoc]

/-- The components of an outline are those that the verticals refer to which are reached. -/
theorem references_eq (h : IsOutline d root kinds top full o) :
    o.references = (reached d root "vertical" (reached d root "sequential"
      (reached d root "chapter" [full]))).flatMap (collect kinds) := by
  have hRefs : o.chapters.flatMap Chapter.references =
      (partElements d root "chapter" full).flatMap fun e =>
        (partElements d root "sequential" e).flatMap fun e =>
          (partElements d root "vertical" e).flatMap (collect kinds) :=
    flatMap_parts h.chapters (fun _ _ => rfl) fun _ _ hSequentials _ _ => hSequentials.references_eq
  rw [Outline.references, hRefs]
  simp only [reached, List.flatMap_singleton, List.flatMap_assoc]

end IsOutline

end Coursebook.Course
