import Coursebook.Course.Document

/-!
# Coursebook — what a document is made from

A document comes to the components of its outline one by one, and knows of its course only the texts
that these have. So two courses whose components have the same texts have the same document.

* `Outline.references` — the components of an outline, in document order.
* `writeDocument_congr` — two courses that give the same texts.
-/

namespace Coursebook.Course

open Coursebook.Files

/-- The references of a vertical, a sequential and so on, in document order. -/
def Sequential.references (q : Sequential) : List Reference := q.verticals.flatMap (·.components)

def Chapter.references (c : Chapter) : List Reference :=
  c.sequentials.flatMap Sequential.references

/-- The references of an outline, in document order. -/
def Outline.references (o : Outline) : List Reference := o.chapters.flatMap Chapter.references

namespace Source

variable {s s' : Source}

theorem componentLines_congr {ref : Reference} (h : s'.componentText ref = s.componentText ref)
    (index : Nat) : s'.componentLines index ref = s.componentLines index ref := by
  unfold componentLines
  rw [h]

theorem componentsLines_congr {refs : List Reference}
    (h : ∀ ref ∈ refs, s'.componentText ref = s.componentText ref) (index : Nat) :
    s'.componentsLines index refs = s.componentsLines index refs := by
  induction refs generalizing index with
  | nil => rfl
  | cons ref r ih =>
    rw [componentsLines, componentsLines, componentLines_congr (h ref List.mem_cons_self),
      ih fun ref' hRef => h ref' (List.mem_cons_of_mem ref hRef)]

theorem verticalsLines_congr {verticals : List Vertical}
    (h : ∀ v ∈ verticals, ∀ ref ∈ v.components, s'.componentText ref = s.componentText ref) :
    s'.verticalsLines verticals = s.verticalsLines verticals := by
  induction verticals with
  | nil => rfl
  | cons v r ih =>
    rw [verticalsLines, verticalsLines, componentsLines_congr (h v List.mem_cons_self),
      ih fun v' hV => h v' (List.mem_cons_of_mem v hV)]

theorem sequentialTexts_congr {sequentials : List Sequential}
    (h : ∀ q ∈ sequentials, ∀ ref ∈ q.references, s'.componentText ref = s.componentText ref) :
    s'.sequentialTexts sequentials = s.sequentialTexts sequentials := by
  induction sequentials with
  | nil => rfl
  | cons q r ih =>
    have hFirst : s'.verticalsLines q.verticals = s.verticalsLines q.verticals :=
      verticalsLines_congr fun v hV ref hRef =>
        h q List.mem_cons_self ref (List.mem_flatMap.mpr ⟨v, hV, hRef⟩)
    rw [sequentialTexts, sequentialTexts, hFirst,
      ih fun q' hQ => h q' (List.mem_cons_of_mem q hQ)]

theorem chapterTexts_congr {chapters : List Chapter}
    (h : ∀ c ∈ chapters, ∀ ref ∈ c.references, s'.componentText ref = s.componentText ref) :
    s'.chapterTexts chapters = s.chapterTexts chapters := by
  induction chapters with
  | nil => rfl
  | cons c r ih =>
    have hFirst : s'.sequentialTexts c.sequentials = s.sequentialTexts c.sequentials :=
      sequentialTexts_congr fun q hQ ref hRef =>
        h c List.mem_cons_self ref (List.mem_flatMap.mpr ⟨q, hQ, hRef⟩)
    rw [chapterTexts, chapterTexts, hFirst, ih fun c' hC => h c' (List.mem_cons_of_mem c hC)]

end Source

/-- Two courses whose components have the same texts have the same document. -/
theorem writeDocument_congr {config : Config} {registry : Registry} {d d' : Disk} {o : Outline}
    {given : Option Path} {root : Path} (hRoot : (given <|> o.root) = some root)
    (h : ∀ ref ∈ o.references,
      (Source.mk registry d' root).componentText ref = (Source.mk registry d root).componentText ref) :
    writeDocument config registry d' o given = writeDocument config registry d o given := by
  have hTexts : (Source.mk registry d' root).chapterTexts o.chapters =
      (Source.mk registry d root).chapterTexts o.chapters :=
    Source.chapterTexts_congr fun c hC ref hRef => h ref (List.mem_flatMap.mpr ⟨c, hC, hRef⟩)
  unfold writeDocument
  rw [hRoot]
  dsimp only
  rw [hTexts]

end Coursebook.Course
