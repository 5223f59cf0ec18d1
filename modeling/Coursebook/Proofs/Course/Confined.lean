import Coursebook.Proofs.Course.Document
import Coursebook.Proofs.Course.Parts
import Coursebook.Proofs.Files.Below

/-!
# Coursebook — references that stay in their course

A course names its parts and components by references, and a reference is a piece of a path: it may
go back, and then it may lead out of the course. A reference is confined if it does not, and a course
if that is true of every reference that the reading of it comes to.

* `componentPath_isWithin` — the files of a confined reference are in the course.
* `readOutline_confined` — the outline of a confined course has confined references only.
-/

namespace Coursebook.Course

open Coursebook.Files

/-! ## References -/

/-- Whether a reference stays in its course: the file that it names, seen from a directory at the
top of the course, is below that. -/
def IsConfined (id : String) : Prop :=
  ∀ ending ∈ [".xml", ".html"], (Path.ofString (id ++ ending)).root = .relative ∧
    staysIn 1 (Path.ofString (id ++ ending)).names = true

instance (id : String) : Decidable (IsConfined id) :=
  inferInstanceAs (Decidable (∀ ending ∈ [".xml", ".html"], _ ∧ _))

/-- A reference to a component of a kind that is kept in files of its own name. -/
def Reference.IsConfined (ref : Reference) : Prop :=
  Text.lower ref.kind ∈ ["html", "problem", "video"] → Course.IsConfined ref.id

/-- The names that lead from a course to a file of a confined reference: the same in every course. -/
theorem exists_componentPath_eq_below {directory id ending : String}
    (hDirectory : Path.ofString directory = ⟨.relative, [directory]⟩) (hName : directory ≠ "..")
    (hId : IsConfined id) (hEnding : ending ∈ [".xml", ".html"]) :
    ∃ names, names ≠ [] ∧ staysIn 0 names = true ∧
      ∀ root, componentPath root directory id ending = root.below names := by
  obtain ⟨hRoot, hStays⟩ := hId ending hEnding
  refine ⟨directory :: (Path.ofString (id ++ ending)).names, List.cons_ne_nil _ _, ?_, fun root => ?_⟩
  · rwa [staysIn, if_neg hName]
  · unfold componentPath Path.child
    rw [hDirectory]
    generalize Path.ofString (id ++ ending) = file at hRoot
    obtain ⟨fileRoot, names⟩ := file
    subst hRoot
    simp [Path.join]

/-- The files of a confined reference are in the course. -/
theorem componentPath_isWithin {root : Path} {directory id ending : String}
    (hDirectory : Path.ofString directory = ⟨.relative, [directory]⟩) (hName : directory ≠ "..")
    (hId : IsConfined id) (hEnding : ending ∈ [".xml", ".html"]) :
    (componentPath root directory id ending).IsWithin root := by
  obtain ⟨names, hNames, hStays, hBelow⟩ :=
    exists_componentPath_eq_below hDirectory hName hId hEnding
  exact ⟨names, hNames, hStays, hBelow root⟩

variable {d : Disk} {root : Path} {kinds : List String}

theorem partPath_isWithin {level id : String} (hLevel : level ∈ ["course", "chapter", "sequential",
    "vertical"]) (hId : IsConfined id) : (partPath root level id).IsWithin root := by
  have hPlain : Path.ofString level = ⟨.relative, [level]⟩ ∧ level ≠ ".." := by
    revert level
    decide
  exact componentPath_isWithin hPlain.1 hPlain.2 hId (by decide)

/-! ## The page about the course -/

theorem aboutDirectory_isWithin (root : Path) : (root.child "about").IsWithin root := by
  have hNames : ".." ∉ ["about"] := by decide
  exact Path.isWithin_below (List.cons_ne_nil _ _) hNames

/-- A page about the course is below its directory, whatever it is called. -/
theorem aboutPage_isWithin (root : Path) (name : String) :
    ((root.child "about").below [name]).IsWithin root := by
  refine ⟨["about", name], List.cons_ne_nil _ _, ?_, ?_⟩
  · simp [staysIn]
  · show (root.below ["about"]).below [name] = root.below ["about", name]
    simp [Path.below, Path.join]

theorem isWithin_of_mem_pagesIn {page : Path} (hPage : page ∈ pagesIn d (root.child "about")) :
    page.IsWithin root := by
  unfold pagesIn at hPage
  rw [List.mem_map] at hPage
  obtain ⟨name, -, rfl⟩ := hPage
  exact aboutPage_isWithin root name

/-- The page about the course that is read is one of those in the directory. -/
theorem isWithin_of_aboutPage? {page : Path}
    (h : aboutPage? d (root.child "about") = .ok (some page)) : page.IsWithin root := by
  unfold aboutPage? ofDisk at h
  cases hIs : d.isFile ((root.child "about").child "overview.html") with
  | error e => simp [hIs] at h
  | ok isFile =>
    cases isFile with
    | true =>
      simp only [hIs, if_true, Except.ok.injEq, Option.some.injEq, bind_ok, mapError_ok] at h
      rw [← h]
      exact aboutPage_isWithin root "overview.html"
    | false =>
      simp only [hIs, Bool.false_eq_true, if_false, Except.ok.injEq, bind_ok, mapError_ok] at h
      exact isWithin_of_mem_pagesIn (List.mem_of_head? h)

/-! ## Courses -/

/-- The parts of a level that an element refers to are named by confined references, and what is in
them has some property. -/
def PartsConfined (d : Disk) (root : Path) (level : String) (inside : Xml.Element → Prop)
    (e : Xml.Element) : Prop :=
  ∀ id ∈ partIds e level, IsConfined id ∧
    ∀ part, readXml d (partPath root level id) = .ok part → inside part

/-- A vertical, a sequential and a chapter in which all references are confined. -/
def VerticalConfined (kinds : List String) (e : Xml.Element) : Prop :=
  ∀ ref ∈ collect kinds e, ref.IsConfined

def SequentialConfined (d : Disk) (root : Path) (kinds : List String) : Xml.Element → Prop :=
  PartsConfined d root "vertical" (VerticalConfined kinds)

def ChapterConfined (d : Disk) (root : Path) (kinds : List String) : Xml.Element → Prop :=
  PartsConfined d root "sequential" (SequentialConfined d root kinds)

/-- Every reference that the reading of a course comes to stays in the course. -/
structure CourseConfined (d : Disk) (root : Path) (kinds : List String) : Prop where
  name : ∀ top, readXml d (coursePath root) = .ok top →
    ∀ id, top.filled? "url_name" = some id → IsConfined id
  parts : ∀ top full, readXml d (coursePath root) = .ok top →
    describingElement d root top = .ok full →
    PartsConfined d root "chapter" (ChapterConfined d root kinds) full

variable {e : Xml.Element} {s s' : List Notice}

theorem readVerticals_confined (h : SequentialConfined d root kinds e) {verticals : List Vertical}
    (hRun : (readVerticals d root kinds e).run s = (.ok verticals, s')) :
    ∀ v ∈ verticals, ∀ ref ∈ v.components, ref.IsConfined := by
  unfold readVerticals at hRun
  refine readParts_forall (fun id _ ref hRef => absurd hRef List.not_mem_nil) ?_ hRun
  intro id hId part hRead s₁ refs s₂ hInside
  cases hInside
  exact (h id hId).2 part hRead

theorem readSequentials_confined (h : ChapterConfined d root kinds e)
    {sequentials : List Sequential}
    (hRun : (readSequentials d root kinds e).run s = (.ok sequentials, s')) :
    ∀ q ∈ sequentials, ∀ ref ∈ q.references, ref.IsConfined := by
  unfold readSequentials at hRun
  refine readParts_forall (fun id _ ref hRef => absurd hRef List.not_mem_nil) ?_ hRun
  intro id hId part hRead s₁ verticals s₂ hInside ref hRef
  obtain ⟨v, hV, hRef⟩ := List.mem_flatMap.mp hRef
  exact readVerticals_confined ((h id hId).2 part hRead) hInside v hV ref hRef

theorem readChapters_confined (h : PartsConfined d root "chapter" (ChapterConfined d root kinds) e)
    {chapters : List Chapter} (hRun : (readChapters d root kinds e).run s = (.ok chapters, s')) :
    ∀ c ∈ chapters, ∀ ref ∈ c.references, ref.IsConfined := by
  unfold readChapters at hRun
  refine readParts_forall (fun id _ ref hRef => absurd hRef List.not_mem_nil) ?_ hRun
  intro id hId part hRead s₁ sequentials s₂ hInside ref hRef
  obtain ⟨q, hQ, hRef⟩ := List.mem_flatMap.mp hRef
  exact readSequentials_confined ((h id hId).2 part hRead) hInside q hQ ref hRef

/-- The outline of a confined course has confined references only. -/
theorem readOutline_confined (h : CourseConfined d root kinds) {o : Outline}
    (hRun : (readOutline d root kinds).run s = (.ok o, s')) :
    ∀ ref ∈ o.references, ref.IsConfined := by
  rw [readOutline_run] at hRun
  split at hRun
  · cases hRun
  · cases hRun
  · split at hRun
    · cases hRun
    · rename_i top hTop
      split at hRun
      · cases hRun
      · rename_i full hFull
        split at hRun
        · rename_i chapters s₁ hChapters
          cases hRun
          intro ref hRef
          obtain ⟨c, hC, hRef⟩ := List.mem_flatMap.mp hRef
          exact readChapters_confined (h.parts top full hTop hFull) hChapters c hC ref hRef
        · cases hRun

end Coursebook.Course
