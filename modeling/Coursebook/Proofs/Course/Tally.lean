import Mathlib
import Coursebook.Proofs.Course.Leaf
import Coursebook.Proofs.Course.Document
import Coursebook.Proofs.Run

/-!
# Coursebook — the document and the tally

Writing a document is a walk over the components of its outline, in their order. The walk only keeps
the tally (`visit`); the text is put together from what comes of each component by itself
(`documentText`). So a component that fails has its placeholder and its entry in the tally, and the
others are written as they are without it.

* `writeDocument_eq` — a document is a walk over its components and a text.
* `visit_run_of_goesOn`, `visit_run_of_ends` — what the walk makes of a tally.
* `document_of_components` — which components end a document, and what it is if none does.
-/

namespace Coursebook.Course

open Coursebook.Files

/-! ## The text -/

/-- The lines that stand for a component. -/
def blockLines (index : Nat) : Except String String → List String
  | .ok text => [text]
  | .error message => placeholder index message

section

-- what comes of each component: its text, or what is wrong with it
variable (outcome : Reference → Except String String)

/-- The lines of components, the first of them the `index`-th of its vertical. -/
def blocks (index : Nat) (refs : List Reference) : List String :=
  (refs.zipIdx index).flatMap fun (ref, i) => blockLines i (outcome ref)

def Sequential.text (q : Sequential) : String :=
  joinLines (s!"### {q.title}\n" :: q.verticals.flatMap fun v => blocks outcome 1 v.components)

def Chapter.text (c : Chapter) : String :=
  joinLines (s!"## {c.title}\n" :: c.sequentials.map (Sequential.text outcome) ++ ["\n---\n"])

/-- The document of an outline. -/
def documentText (config : Config) (o : Outline) : String :=
  joinLines (headerLines config o.title ++ o.chapters.map (Chapter.text outcome) ++ footerLines)

end

section

variable {outcome outcome' : Reference → Except String String}

theorem blocks_congr {refs : List Reference} (h : ∀ ref ∈ refs, outcome' ref = outcome ref)
    (index : Nat) : blocks outcome' index refs = blocks outcome index refs := by
  refine List.flatMap_congr fun x hx => ?_
  show blockLines x.2 (outcome' x.1) = blockLines x.2 (outcome x.1)
  rw [h x.1 (List.fst_mem_of_mem_zipIdx hx)]

theorem Sequential.text_congr {q : Sequential} (h : ∀ ref ∈ q.references, outcome' ref = outcome ref) :
    Sequential.text outcome' q = Sequential.text outcome q := by
  unfold Sequential.text
  rw [List.flatMap_congr fun v hV => blocks_congr
    (fun ref hRef => h ref (List.mem_flatMap.mpr ⟨v, hV, hRef⟩)) 1]

theorem Chapter.text_congr {c : Chapter} (h : ∀ ref ∈ c.references, outcome' ref = outcome ref) :
    Chapter.text outcome' c = Chapter.text outcome c := by
  unfold Chapter.text
  rw [List.map_congr_left fun q hQ => Sequential.text_congr
    fun ref hRef => h ref (List.mem_flatMap.mpr ⟨q, hQ, hRef⟩)]

/-- A document knows of its components only what comes of each. -/
theorem documentText_congr {o : Outline} (h : ∀ ref ∈ o.references, outcome' ref = outcome ref)
    (config : Config) : documentText outcome' config o = documentText outcome config o := by
  unfold documentText
  rw [List.map_congr_left fun c hC => Chapter.text_congr
    fun ref hRef => h ref (List.mem_flatMap.mpr ⟨c, hC, hRef⟩)]

end

/-! ## The tally -/

section

variable (outcome : Reference → Except String String)

/-- The entry of a component in the tally, if it has one. -/
def failure? (ref : Reference) : Option FailedComponent :=
  match outcome ref with
  | .ok _ => none
  | .error message => some ⟨ref.kind, ref.id, message⟩

/-- The components that have no text, in their order. -/
def failures (refs : List Reference) : List FailedComponent := refs.filterMap (failure? outcome)

/-- What is said about a component that has no text. -/
def FailedComponent.notice (f : FailedComponent) : Notice := .failedComponent f.kind f.id f.error

/-- How far a document has come, past some more components. -/
def Progress.past (p : Progress) (refs : List Reference) : Progress :=
  { tally := ⟨p.tally.count + refs.length, p.tally.failed ++ failures outcome refs⟩
    notices := p.notices ++ (failures outcome refs).map FailedComponent.notice }

theorem Progress.past_nil (p : Progress) : p.past outcome [] = p := by
  simp [Progress.past, failures]

theorem Progress.past_cons (p : Progress) (ref : Reference) (r : List Reference) :
    p.past outcome (ref :: r) = (p.past outcome [ref]).past outcome r := by
  simp only [Progress.past, failures, List.length_cons, List.length_nil, List.filterMap_cons,
    List.filterMap_nil]
  cases failure? outcome ref <;> simp [Nat.add_assoc, Nat.add_comm 1]

end

/-! ## The walk -/

namespace Source

variable {s : Source}

/-- What comes of a component by itself. -/
def outcome (s : Source) (ref : Reference) : Except String String :=
  (s.componentText ref).mapError Failure.message

/-- A component that the walk goes on after. -/
def GoesOn (s : Source) (ref : Reference) : Prop :=
  ∀ e, s.componentText ref = .error e → e.isLeaf = true

/-- Comes to a component: counts it, and keeps it if it fails. -/
def visitOne (s : Source) (ref : Reference) : Writing Unit := do
  modify (·.counted)
  match s.componentText ref with
  | .ok _ => return ()
  | .error e => if e.isLeaf then modify (·.withFailed ref e.message) else throw e

/-- Comes to components one by one. -/
def visit (s : Source) : List Reference → Writing Unit
  | [] => return ()
  | ref :: r => do
    s.visitOne ref
    s.visit r

theorem visit_append (a b : List Reference) :
    s.visit (a ++ b) = (do s.visit a; s.visit b) := by
  induction a with
  | nil => simp [visit]
  | cons ref r ih => simp only [List.cons_append, visit, ih, bind_assoc]

/-- The lines of a component are known once the walk has come to it. -/
theorem componentLines_eq (index : Nat) (ref : Reference) :
    s.componentLines index ref = (do
      s.visitOne ref
      return blockLines index (s.outcome ref)) := by
  unfold componentLines visitOne outcome
  rw [bind_assoc]
  cases hText : s.componentText ref with
  | ok text => simp [blockLines]
  | error e =>
    by_cases hLeaf : e.isLeaf = true
    · simp [hLeaf, blockLines]
    · simp [hLeaf]

theorem componentsLines_eq (index : Nat) (refs : List Reference) :
    s.componentsLines index refs = (do
      s.visit refs
      return blocks s.outcome index refs) := by
  induction refs generalizing index with
  | nil => simp [componentsLines, visit, blocks]
  | cons ref r ih => simp [componentsLines, componentLines_eq, ih, visit, blocks, List.zipIdx_cons]

theorem verticalsLines_eq (verticals : List Vertical) :
    s.verticalsLines verticals = (do
      s.visit (verticals.flatMap (·.components))
      return verticals.flatMap fun v => blocks s.outcome 1 v.components) := by
  induction verticals with
  | nil => simp [verticalsLines, visit]
  | cons v r ih => simp [verticalsLines, componentsLines_eq, ih, visit_append]

theorem sequentialTexts_eq (sequentials : List Sequential) :
    s.sequentialTexts sequentials = (do
      s.visit (sequentials.flatMap Sequential.references)
      return sequentials.map (Sequential.text s.outcome)) := by
  induction sequentials with
  | nil => simp [sequentialTexts, visit]
  | cons q r ih =>
    simp [sequentialTexts, verticalsLines_eq, ih, visit_append, Sequential.references,
      Sequential.text]

theorem chapterTexts_eq (chapters : List Chapter) :
    s.chapterTexts chapters = (do
      s.visit (chapters.flatMap Chapter.references)
      return chapters.map (Chapter.text s.outcome)) := by
  induction chapters with
  | nil => simp [chapterTexts, visit]
  | cons c r ih =>
    simp [chapterTexts, sequentialTexts_eq, ih, visit_append, Chapter.references, Chapter.text]

/-- A component that the walk goes on after has its part in the tally. -/
theorem visitOne_run_of_goesOn {ref : Reference} (h : s.GoesOn ref) (p : Progress) :
    (s.visitOne ref).run p = (.ok ⟨⟩, p.past s.outcome [ref]) := by
  unfold visitOne
  rw [run_bind_of_ok (run_modify _ p)]
  cases hText : s.componentText ref with
  | ok text =>
    simp [run_pure, Progress.past, Progress.counted, failures, failure?, outcome, hText]
  | error e =>
    simp only [h e hText, if_true, run_modify]
    simp [Progress.past, Progress.counted, Progress.withFailed, failures, failure?, outcome, hText,
      FailedComponent.notice]

/-- A component that ends the document is counted, and that is all. -/
theorem visitOne_run_of_ends {ref : Reference} {e : Failure} (h : s.componentText ref = .error e)
    (hLeaf : e.isLeaf = false) (p : Progress) :
    (s.visitOne ref).run p = (.error e, p.counted) := by
  unfold visitOne
  rw [run_bind_of_ok (run_modify _ p), h]
  simp only [hLeaf, Bool.false_eq_true, if_false]
  exact run_throw e p.counted

theorem visit_run_of_goesOn {refs : List Reference} (h : ∀ ref ∈ refs, s.GoesOn ref)
    (p : Progress) : (s.visit refs).run p = (.ok ⟨⟩, p.past s.outcome refs) := by
  induction refs generalizing p with
  | nil => rw [visit, run_pure, Progress.past_nil]
  | cons ref r ih =>
    rw [visit, run_bind_of_ok (visitOne_run_of_goesOn (h ref List.mem_cons_self) p),
      ih fun ref' hRef => h ref' (List.mem_cons_of_mem ref hRef), ← Progress.past_cons]

/-- The walk ends at the first component that ends the document, with what is wrong there. -/
theorem visit_run_of_ends {before after : List Reference} {ref : Reference} {e : Failure}
    (hBefore : ∀ ref' ∈ before, s.GoesOn ref') (hText : s.componentText ref = .error e)
    (hLeaf : e.isLeaf = false) (p : Progress) :
    (s.visit (before ++ ref :: after)).run p = (.error e, (p.past s.outcome before).counted) := by
  rw [visit_append, run_bind_of_ok (visit_run_of_goesOn hBefore p), visit,
    run_bind_of_error (visitOne_run_of_ends hText hLeaf _)]

/-- If some component ends the document, one is the first. -/
theorem exists_first {refs : List Reference} (h : ¬ ∀ ref ∈ refs, s.GoesOn ref) :
    ∃ before ref after e, refs = before ++ ref :: after ∧ (∀ ref' ∈ before, s.GoesOn ref') ∧
      s.componentText ref = .error e ∧ e.isLeaf = false := by
  induction refs with
  | nil => exact absurd (by simp) h
  | cons ref r ih =>
    by_cases hGoesOn : s.GoesOn ref
    · -- then the first one is further on
      have hRest : ¬ ∀ ref' ∈ r, s.GoesOn ref' := fun hAll =>
        h (List.forall_mem_cons.mpr ⟨hGoesOn, hAll⟩)
      obtain ⟨before, ref', after, e, rfl, hBefore, hText, hLeaf⟩ := ih hRest
      exact ⟨ref :: before, ref', after, e, rfl, List.forall_mem_cons.mpr ⟨hGoesOn, hBefore⟩, hText,
        hLeaf⟩
    · obtain ⟨e, he⟩ := Classical.not_forall.mp hGoesOn
      obtain ⟨hText, hLeaf⟩ := Classical.not_imp.mp he
      exact ⟨[], ref, r, e, rfl, by simp, hText, by simpa using hLeaf⟩

end Source

/-! ## The document -/

/-- A document is a walk over its components and a text. -/
theorem writeDocument_eq (config : Config) (registry : Registry) (d : Disk) (o : Outline)
    {given : Option Path} {root : Path} (hRoot : (given <|> o.root) = some root) :
    writeDocument config registry d o given = (do
      (Source.mk registry d root).visit o.references
      return documentText (Source.mk registry d root).outcome config o) := by
  unfold writeDocument
  rw [hRoot]
  simp [Source.chapterTexts_eq, documentText, Outline.references]

section

variable (config : Config) (d : Disk) (root : Path) (ref : Reference)

/-- The walk goes on after every component but those that end a document. -/
theorem goesOn_iff :
    (Source.mk (.standard config) d root).GoesOn ref ↔ ¬ Stops config.mediaDir d root ref := by
  unfold Source.GoesOn
  rcases componentText_settles config d root ref with ⟨text, hText, _, hGoesOn⟩ |
    ⟨e, hText, hLeaf, _, hGoesOn⟩ | ⟨e, hText, hLeaf, hStops⟩
  · simp [hText, hGoesOn]
  · simp [hText, hLeaf, hGoesOn]
  · simp [hText, hLeaf, hStops]

end

end Coursebook.Course
