import Coursebook.Proofs.Course.Leaf
import Coursebook.Proofs.Course.Locality

/-!
# Coursebook — courses whose structure cannot be read

The structure of a course is read file by file, from `course.xml` down to the verticals, and nothing
is read any more after a file that is at fault. Put in a list (`structurePaths`), the files that this
leads to tell how the outline fails: with the first fault among them.

A file that is missing is no fault, except for `course.xml`. One that is there may be malformed; but
it may also declare an encoding in which it cannot be read, or not be a file at all, and a reference
may be too long to be looked for.

* `fault?_eq_some_iff` — what is wrong with a file.
* `readOutline_ending`, `readOutline_eq_error_iff` — an outline fails with the first fault.
* `structure_fails` — the failures there are, and when they are no others than those of a missing
  `course.xml` and of a malformed document.
-/

namespace Coursebook.Course

open Coursebook.Files

/-! ## One file -/

section

variable {d : Disk} {p : Path}

/-- What is wrong with a file of the structure, with the failure that comes of it. -/
inductive IsFault (d : Disk) (p : Path) : Failure → Prop where
  | malformed {c : Content} {fault : Xml.Fault} {position : Xml.Position}
      (hRead : d.read p = .ok c)
      (hXml : Xml.Element.read c.bytes false = .error (.malformed fault position)) :
      IsFault d p (.xml p (.malformed fault position))
  | oddEncoding {c : Content} {e : Xml.XmlError} (hRead : d.read p = .ok c)
      (hXml : Xml.Element.read c.bytes false = .error e)
      (hOdd : ∀ fault position, e ≠ .malformed fault position) : IsFault d p (.xml p e)
  | directory (hEntry : d.entry p = .ok .directory) : IsFault d p (.file ⟨.isDirectory, p⟩)
  | tooLong (hEntry : d.entry p = .error .nameTooLong) : IsFault d p (.file ⟨.nameTooLong, p⟩)

/-- The failure that comes of a file of the structure, if it is at fault. -/
def fault? (d : Disk) (p : Path) : Option Failure :=
  match d.has p with
  | .error e => some (.file e)
  | .ok false => none
  | .ok true =>
    match readXml d p with
    | .error e => some e
    | .ok _ => none

/-- The element in a file of the structure, if the file is there and can be read. -/
def element? (d : Disk) (p : Path) : Option Xml.Element :=
  match d.has p with
  | .ok true => (readXml d p).toOption
  | _ => none

/-- What comes of a file, by what stands at its path. -/
theorem fault?_eq (d : Disk) (p : Path) :
    fault? d p =
      match d.entry p with
      | .ok (.file c) =>
        match Xml.Element.read c.bytes false with
        | .error e => some (.xml p e)
        | .ok _ => none
      | .ok .directory => some (.file ⟨.isDirectory, p⟩)
      | .error .nameTooLong => some (.file ⟨.nameTooLong, p⟩)
      | .error _ => none := by
  unfold fault? readXml ofDisk Disk.has Disk.ask Disk.read
  cases d.entry p with
  | error fault => cases fault <;> rfl
  | ok entry =>
    cases entry with
    | directory => rfl
    | file c =>
      dsimp only [mapError_ok, bind_ok]
      cases Xml.Element.read c.bytes false <;> rfl

theorem fault?_eq_some_iff {f : Failure} : fault? d p = some f ↔ IsFault d p f := by
  constructor
  · intro hFault
    rw [fault?_eq] at hFault
    split at hFault
    · rename_i c hEntry
      have hRead := Disk.read_of_entry hEntry
      split at hFault
      · rename_i e hXml
        cases hFault
        cases e with
        | malformed fault position => exact .malformed hRead hXml
        | _ => exact .oddEncoding hRead hXml (by simp)
      · cases hFault
    · cases hFault
      exact .directory ‹_›
    · cases hFault
      exact .tooLong ‹_›
    · cases hFault
  · intro hFault
    -- only a file can be read, and then it holds what it is read to
    have hXml {c : Content} {e : Xml.XmlError} (hRead : d.read p = .ok c)
        (hXml : Xml.Element.read c.bytes false = .error e) : fault? d p = some (.xml p e) := by
      unfold Disk.read at hRead
      split at hRead
      · rename_i hEntry
        cases hRead
        rw [fault?_eq, hEntry]
        dsimp only
        rw [hXml]
      · cases hRead
      · cases hRead
    cases hFault with
    | malformed hRead hElement => exact hXml hRead hElement
    | oddEncoding hRead hElement hOdd => exact hXml hRead hElement
    | directory hEntry => rw [fault?_eq, hEntry]
    | tooLong hEntry => rw [fault?_eq, hEntry]

/-- The failure is that of a malformed document unless the file is at fault in another way. -/
theorem IsFault.malformed_iff {f : Failure} (h : IsFault d p f) :
    (∃ fault position, f = .xml p (.malformed fault position)) ↔
      ¬ OddEncoding d p ∧ d.entry p ≠ .ok .directory ∧ d.entry p ≠ .error .nameTooLong := by
  cases h with
  | malformed hRead hXml =>
    refine iff_of_true ⟨_, _, rfl⟩ ⟨?_, ?_, ?_⟩
    · rintro ⟨c', e, hRead', hXml', hOdd⟩
      cases hRead.symm.trans hRead'
      exact hOdd _ _ (Except.error.inj (hXml'.symm.trans hXml))
    · intro hEntry
      rw [Disk.read, hEntry] at hRead
      cases hRead
    · intro hEntry
      rw [Disk.read, hEntry] at hRead
      cases hRead
  | oddEncoding hRead hXml hOdd =>
    refine iff_of_false ?_ fun hPlain => hPlain.1 ⟨_, _, hRead, hXml, hOdd⟩
    rintro ⟨fault, position, hEq⟩
    cases hEq
    exact hOdd fault position rfl
  | directory hEntry => simp [hEntry]
  | tooLong hEntry => simp [hEntry]

end

/-! ## The files in their order -/

/-- The levels of a course below its top. -/
def levels : List String := ["chapter", "sequential", "vertical"]

section

variable (d : Disk) (root : Path)

/-- The files of the parts that an element refers to, each followed by those of what is in it. -/
def partPaths : List String → Xml.Element → List Path
  | [], _ => []
  | level :: inner, e => (partIds e level).flatMap fun id =>
    partPath root level id ::
      (element? d (partPath root level id)).elim [] fun part => partPaths inner part

/-- The files that the structure of a course is read from, in the order in which they are come to:
`course.xml`, the file it names, and those of the parts. -/
def structurePaths : List Path :=
  coursePath root :: (element? d (coursePath root)).elim [] fun top =>
    (top.filled? "url_name").toList.map (partPath root "course") ++
      (describingElement d root top).toOption.elim [] fun full => partPaths d root levels full

end

/-! ## The outline -/

/-- The failure that a reading ends with, if it fails. -/
def Reading.ending {α : Type} (x : Reading α) (s : List Notice) : Option Failure :=
  match (x.run s).1 with
  | .ok _ => none
  | .error e => some e

theorem Reading.ending_eq_some_iff {α : Type} {x : Reading α} {s : List Notice} {e : Failure} :
    Reading.ending x s = some e ↔ (x.run s).1 = .error e := by
  unfold Reading.ending
  cases (x.run s).1 <;> simp

section

variable {α β : Type} {d : Disk} {root : Path} {level : String}
  {make : String → String → List β → α} {inside : Xml.Element → Reading (List β)}
  {inner : Xml.Element → List Path}

/-- A part fails with the first fault in its file and in those of what is in it. -/
theorem readPart_ending
    (hInside : ∀ e s, Reading.ending (inside e) s = (inner e).findSome? (fault? d)) (id : String)
    (s : List Notice) :
    Reading.ending (readPart d root level make inside id) s =
      (partPath root level id ::
        (element? d (partPath root level id)).elim [] inner).findSome? (fault? d) := by
  rw [Reading.ending, readPart_run, List.findSome?_cons]
  unfold fault? element?
  cases hHas : d.has (partPath root level id) with
  | error e => rfl
  | ok has =>
    cases has with
    | false => rfl
    | true =>
      cases hRead : readXml d (partPath root level id) with
      | error e => rfl
      | ok e =>
        show _ = (inner e).findSome? (fault? d)
        rw [← hInside e s, Reading.ending]
        dsimp only
        cases hRun : (inside e).run s with
        | mk outcome s' => cases outcome <;> rfl

theorem readParts_ending
    (hInside : ∀ e s, Reading.ending (inside e) s = (inner e).findSome? (fault? d))
    (ids : List String) (s : List Notice) :
    Reading.ending (readParts d root level make inside ids) s =
      (ids.flatMap fun id => partPath root level id ::
        (element? d (partPath root level id)).elim [] inner).findSome? (fault? d) := by
  induction ids generalizing s with
  | nil => rfl
  | cons id r ih =>
    rw [readParts_cons, List.flatMap_cons, List.findSome?_append,
      ← readPart_ending hInside id s, Reading.ending, Reading.ending, run_bind]
    cases hPart : (readPart d root level make inside id).run s with
    | mk outcome s₁ =>
      cases outcome with
      | error e => rfl
      | ok part =>
        -- the other parts are read with the notices that this one has left
        dsimp only [Option.none_or]
        rw [← ih s₁, Reading.ending, run_bind]
        cases hRest : (readParts d root level make inside r).run s₁ with
        | mk outcome s₂ => cases outcome <;> rfl

theorem readChapters_ending (kinds : List String) (e : Xml.Element) (s : List Notice) :
    Reading.ending (readChapters d root kinds e) s =
      (partPaths d root levels e).findSome? (fault? d) := by
  refine readParts_ending (fun e s => ?_) _ s
  refine readParts_ending (fun e s => ?_) _ s
  exact readParts_ending (fun e s => rfl) _ s

end

section

variable (d : Disk) (root : Path)

/-- The file that describes a course in full is at fault, or there is an element that does. -/
theorem describingElement_fault (top : Xml.Element) :
    ((top.filled? "url_name").toList.map (partPath root "course")).findSome? (fault? d) =
      match describingElement d root top with
      | .ok _ => none
      | .error e => some e := by
  unfold describingElement
  cases top.filled? "url_name" with
  | none => rfl
  | some name =>
    show [partPath root "course" name].findSome? (fault? d) = _
    rw [List.findSome?_singleton, fault?]
    dsimp only
    cases d.has (partPath root "course" name) with
    | error e => rfl
    | ok has =>
      cases has with
      | false => rfl
      | true =>
        show _ = match readXml d (partPath root "course" name) with
          | .ok _ => none
          | .error e => some e
        cases readXml d (partPath root "course" name) <;> rfl

variable (kinds : List String) (s : List Notice)

/-- An outline fails with the first fault, unless there is no `course.xml`. -/
theorem readOutline_ending (hThere : d.has (coursePath root) ≠ .ok false) :
    Reading.ending (readOutline d root kinds) s = (structurePaths d root).findSome? (fault? d) := by
  rw [Reading.ending, readOutline_run, structurePaths, List.findSome?_cons]
  unfold fault? element?
  cases hHas : d.has (coursePath root) with
  | error e => rfl
  | ok has =>
    cases has with
    | false => exact absurd hHas hThere
    | true =>
      cases hTop : readXml d (coursePath root) with
      | error e => rfl
      | ok top =>
        show _ = (_ ++ _ : List Path).findSome? (fault? d)
        rw [List.findSome?_append, describingElement_fault]
        dsimp only
        cases hFull : describingElement d root top with
        | error e => rfl
        | ok full =>
          show _ = (partPaths d root levels full).findSome? (fault? d)
          rw [← readChapters_ending kinds full s, Reading.ending]
          dsimp only
          cases hChapters : (readChapters d root kinds full).run s with
          | mk outcome s' => cases outcome <;> rfl

/-- A file of the structure that is at fault, with none at fault before it. -/
def IsFirstFault (p : Path) (f : Failure) : Prop :=
  ∃ before after, structurePaths d root = before ++ p :: after ∧ IsFault d p f ∧
    ∀ q ∈ before, ∀ g, ¬ IsFault d q g

theorem exists_isFirstFault_iff {f : Failure} :
    (∃ p, IsFirstFault d root p f) ↔ (structurePaths d root).findSome? (fault? d) = some f := by
  rw [List.findSome?_eq_some_iff]
  simp only [IsFirstFault, Option.eq_none_iff_forall_ne_some, ne_eq, fault?_eq_some_iff]
  constructor
  · rintro ⟨p, before, after, h⟩
    exact ⟨before, p, after, h⟩
  · rintro ⟨before, p, after, h⟩
    exact ⟨p, before, after, h⟩

/-- If there is no `course.xml`, nothing is at fault. -/
theorem not_isFirstFault (hGone : d.has (coursePath root) = .ok false) {p : Path} {f : Failure} :
    ¬ IsFirstFault d root p f := by
  intro hFirst
  have hFault := (exists_isFirstFault_iff d root).mp ⟨p, hFirst⟩
  rw [structurePaths, element?, hGone, List.findSome?_cons, fault?, hGone] at hFault
  cases hFault

/-- How an outline fails: without a `course.xml`, or with the first fault. -/
theorem readOutline_eq_error_iff {f : Failure} :
    ((readOutline d root kinds).run s).1 = .error f ↔
      (d.has (coursePath root) = .ok false ∧ f = .noCourse (coursePath root)) ∨
      ∃ p, IsFirstFault d root p f := by
  by_cases hGone : d.has (coursePath root) = .ok false
  · have hRun : ((readOutline d root kinds).run s).1 = .error (.noCourse (coursePath root)) := by
      rw [readOutline_run, hGone]
    simp [hRun, hGone, not_isFirstFault d root hGone, eq_comm]
  · rw [exists_isFirstFault_iff, ← readOutline_ending d root kinds s hGone,
      Reading.ending_eq_some_iff]
    simp [hGone]

/--
**How the structure of a course fails.** An outline is not read if there is no `course.xml`, which is
the failure then, or if a file of the structure is at fault; then the first fault is the failure. The
failure is thus that of a missing `course.xml` exactly if there is none. It is of another kind than
this one and that of a malformed document exactly if the first fault is a file that declares an
encoding in which it cannot be read, a directory, or a path that is too long.
-/
theorem structure_fails :
    let outcome := ((readOutline d root kinds).run s).1
    (∀ f, outcome = .error f ↔
      (d.has (coursePath root) = .ok false ∧ f = .noCourse (coursePath root)) ∨
      ∃ p, IsFirstFault d root p f) ∧
    (∀ path, outcome = .error (.noCourse path) ↔
      d.has (coursePath root) = .ok false ∧ path = coursePath root) ∧
    ((∃ o, outcome = .ok o) ∨ outcome = .error (.noCourse (coursePath root)) ∨
        (∃ p fault position, outcome = .error (.xml p (.malformed fault position))) ↔
      ∀ p f, IsFirstFault d root p f →
        ¬ OddEncoding d p ∧ d.entry p ≠ .ok .directory ∧ d.entry p ≠ .error .nameTooLong) := by
  intro outcome
  have hOutcome : ∀ f, outcome = .error f ↔
      (d.has (coursePath root) = .ok false ∧ f = .noCourse (coursePath root)) ∨
      ∃ p, IsFirstFault d root p f := fun f => readOutline_eq_error_iff d root kinds s
  refine ⟨hOutcome, fun path => ?_, ?_, ?_⟩
  · rw [hOutcome]
    constructor
    · rintro (⟨hGone, hPath⟩ | ⟨p, _, _, _, hFault, _⟩)
      · exact ⟨hGone, Failure.noCourse.inj hPath⟩
      · cases hFault
    · rintro ⟨hGone, rfl⟩
      exact .inl ⟨hGone, rfl⟩
  · intro hOnly p f hFirst
    have hFails : outcome = .error f := (hOutcome f).mpr (.inr ⟨p, hFirst⟩)
    obtain ⟨before, after, hPaths, hFault, hBefore⟩ := hFirst
    refine hFault.malformed_iff.mp ?_
    rw [hFails] at hOnly
    rcases hOnly with ⟨o, hOk⟩ | hNone | ⟨q, fault, position, hMalformed⟩
    · cases hOk
    · cases hNone
      cases hFault
    · cases hMalformed
      cases hFault <;> exact ⟨fault, position, rfl⟩
  · intro hPlain
    cases hRun : outcome with
    | ok o => exact .inl ⟨o, rfl⟩
    | error f =>
      rcases (hOutcome f).mp hRun with ⟨-, rfl⟩ | ⟨p, hFirst⟩
      · exact .inr (.inl rfl)
      · obtain ⟨before, after, hPaths, hFault, hBefore⟩ := id hFirst
        obtain ⟨fault, position, rfl⟩ := hFault.malformed_iff.mpr (hPlain p f hFirst)
        exact .inr (.inr ⟨p, fault, position, rfl⟩)

end

/-- A course with a directory where the file of a chapter should be: its outline fails, though
`course.xml` is there and nothing is malformed. -/
theorem directory_for_chapter_fails :
    let d : Disk := { tree := ⟨[(["c"], .directory), (["c", "chapter"], .directory),
      (["c", "course.xml"], .file (.ofText "<course><chapter url_name='a'/></course>")),
      (["c", "chapter", "a.xml"], .directory)]⟩ }
    let root : Path := ⟨.relative, ["c"]⟩
    d.has (coursePath root) = .ok true ∧
      ((readOutline d root knownKinds).run []).1 =
        .error (.file ⟨.isDirectory, partPath root "chapter" "a"⟩) := by
  intro d root
  have hCourse : d.entry (coursePath root) =
      .ok (.file (.ofText "<course><chapter url_name='a'/></course>")) := by cbv
  have hChapter : d.entry (partPath root "chapter" "a") = .ok .directory := by cbv
  have hHas : d.has (coursePath root) = .ok true := Disk.ask_of_entry hCourse _
  let top : Xml.Element := ⟨"course", [], [.element "chapter" [("url_name", "a")] []]⟩
  have hTop : readXml d (coursePath root) = .ok top :=
    readXml_of_start (Disk.read_of_entry hCourse) (by cbv) (by cbv)
  have hRead : readXml d (partPath root "chapter" "a") =
      .error (.file ⟨.isDirectory, partPath root "chapter" "a"⟩) := by
    rw [readXml, Disk.read, hChapter]
    rfl
  have hFull : describingElement d root top = .ok top := rfl
  have hOnly : partIds top "chapter" = ["a"] := by decide
  refine ⟨hHas, ?_⟩
  rw [readOutline_run, hHas, hTop]
  dsimp only
  rw [hFull]
  dsimp only
  rw [readChapters, hOnly, readParts_cons, run_bind, readPart_run, Disk.has,
    Disk.ask_of_entry hChapter, hRead]

end Coursebook.Course
