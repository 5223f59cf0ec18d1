import Coursebook.Course.Outline
import Coursebook.Proofs.Run

/-!
# Coursebook — reading the parts of a course

Chapters, sequentials and verticals are read in the same way, so what is true of all three is proved
of `readParts` once: `readPart` is what is done for a single id, told by one equation
(`readPart_run`).

* `readParts_congr` — two disks that give the same for every id.
* `readParts_forall` — what is true of every part that is made.
* `describingElement_of_there`, `describingElement_of_missing` — where a course is described.
* `readOutline_run` — the outline as a whole.
-/

namespace Coursebook.Course

open Coursebook.Files

variable {α β : Type} {d d' : Disk} {root : Path} {level : String}
  {make : String → String → List β → α} {inside inside' : Xml.Element → Reading (List β)}

/-- Reads the part with an id. -/
def readPart (d : Disk) (root : Path) (level : String) (make : String → String → List β → α)
    (inside : Xml.Element → Reading (List β)) (id : String) : Reading α := do
  let path := partPath root level id
  if ← Reading.ofLoad (ofDisk (d.has path)) then do
    let e ← Reading.ofLoad (readXml d path)
    pure (make id (partTitle e id) (← inside e))
  else do
    Reading.tell (.missingPart level path)
    pure (make id (missingTitle level id) [])

theorem readParts_cons (id : String) (r : List String) :
    readParts d root level make inside (id :: r) = do
      let part ← readPart d root level make inside id
      return part :: (← readParts d root level make inside r) := by
  rw [readParts]
  simp only [readPart, bind_assoc]
  refine bind_congr fun has => ?_
  cases has <;> simp

theorem readPart_run (id : String) (s : List Notice) :
    (readPart d root level make inside id).run s =
      match d.has (partPath root level id) with
      | .error e => (.error (.file e), s)
      | .ok false =>
        (.ok (make id (missingTitle level id) []), s ++ [.missingPart level (partPath root level id)])
      | .ok true =>
        match readXml d (partPath root level id) with
        | .error e => (.error e, s)
        | .ok e =>
          match (inside e).run s with
          | (.ok bs, s') => (.ok (make id (partTitle e id) bs), s')
          | (.error fault, s') => (.error fault, s') := by
  unfold readPart
  dsimp only
  cases hHas : d.has (partPath root level id) with
  | error e => rfl
  | ok has =>
    cases has with
    | false => rfl
    | true =>
      cases readXml d (partPath root level id) with
      | error e => rfl
      | ok e =>
        show (inside e >>= fun bs => pure (make id (partTitle e id) bs)).run s = _
        dsimp only
        rw [run_bind]
        obtain ⟨outcome, s'⟩ := (inside e).run s
        cases outcome <;> rfl

/-- Two disks that give the same for an id give the same part. -/
theorem readPart_congr {id : String}
    (hHas : d'.has (partPath root level id) = d.has (partPath root level id))
    (hRead : readXml d' (partPath root level id) = readXml d (partPath root level id))
    (hInside : ∀ part, readXml d (partPath root level id) = .ok part → inside' part = inside part) :
    readPart d' root level make inside' id = readPart d root level make inside id := by
  refine ExceptT.ext (funext fun s => ?_)
  show (readPart d' root level make inside' id).run s = (readPart d root level make inside id).run s
  rw [readPart_run, readPart_run, hHas, hRead]
  cases hPart : readXml d (partPath root level id) with
  | error e => rfl
  | ok part => simp only [hInside part hPart]

theorem readParts_congr {ids : List String}
    (h : ∀ id ∈ ids, d'.has (partPath root level id) = d.has (partPath root level id) ∧
      readXml d' (partPath root level id) = readXml d (partPath root level id) ∧
      ∀ part, readXml d (partPath root level id) = .ok part → inside' part = inside part) :
    readParts d' root level make inside' ids = readParts d root level make inside ids := by
  induction ids with
  | nil => rfl
  | cons id r ih =>
    obtain ⟨hHas, hRead, hInside⟩ := h id List.mem_cons_self
    rw [readParts_cons, readParts_cons, readPart_congr hHas hRead hInside,
      ih fun id' hId => h id' (List.mem_cons_of_mem id hId)]

/-- What is true of a part without a file, and of one with the content that is read for it, is true of
the part. -/
theorem readPart_forall {P : α → Prop} {id : String}
    (hMissing : P (make id (missingTitle level id) []))
    (hPresent : ∀ part, readXml d (partPath root level id) = .ok part →
      ∀ s bs s', (inside part).run s = (.ok bs, s') → P (make id (partTitle part id) bs))
    {s s' : List Notice} {part : α}
    (hRun : (readPart d root level make inside id).run s = (.ok part, s')) : P part := by
  rw [readPart_run] at hRun
  split at hRun
  · cases hRun
  · cases hRun
    exact hMissing
  · split at hRun
    · cases hRun
    · rename_i e hRead
      split at hRun
      · rename_i bs s'' hInside
        cases hRun
        exact hPresent e hRead s bs _ hInside
      · cases hRun

/-- So it is true of all parts. -/
theorem readParts_forall {P : α → Prop} {ids : List String}
    (hMissing : ∀ id ∈ ids, P (make id (missingTitle level id) []))
    (hPresent : ∀ id ∈ ids, ∀ part, readXml d (partPath root level id) = .ok part →
      ∀ s bs s', (inside part).run s = (.ok bs, s') → P (make id (partTitle part id) bs))
    {s s' : List Notice} {parts : List α}
    (hRun : (readParts d root level make inside ids).run s = (.ok parts, s')) :
    ∀ part ∈ parts, P part := by
  induction ids generalizing s parts with
  | nil =>
    rw [readParts, run_pure] at hRun
    cases hRun
    exact List.forall_mem_nil _
  | cons id r ih =>
    rw [List.forall_mem_cons] at hMissing hPresent
    rw [readParts_cons] at hRun
    obtain ⟨part, s₁, hPart, hRun⟩ := run_bind_eq_ok hRun
    obtain ⟨rest, s₂, hRest, hRun⟩ := run_bind_eq_ok hRun
    cases hRun
    exact List.forall_mem_cons.mpr
      ⟨readPart_forall hMissing.1 hPresent.1 hPart, ih hMissing.2 hPresent.2 hRest⟩

section

variable {top : Xml.Element} {name : String}

/-- A course is described in full in the file that its first one names. -/
theorem describingElement_of_there (hName : top.filled? "url_name" = some name)
    (hHas : d.has (partPath root "course" name) = .ok true) :
    describingElement d root top = readXml d (partPath root "course" name) := by
  unfold describingElement
  rw [hName]
  dsimp only
  rw [hHas]
  rfl

/-- Where this file is missing, the first one describes the course. -/
theorem describingElement_of_missing (hName : top.filled? "url_name" = some name)
    (hHas : d.has (partPath root "course" name) = .ok false) :
    describingElement d root top = .ok top := by
  unfold describingElement
  rw [hName]
  dsimp only
  rw [hHas]
  rfl

end

theorem readOutline_run (d : Disk) (root : Path) (kinds : List String) (s : List Notice) :
    (readOutline d root kinds).run s =
      match d.has (coursePath root) with
      | .error e => (.error (.file e), s)
      | .ok false => (.error (.noCourse (coursePath root)), s)
      | .ok true =>
        match readXml d (coursePath root) with
        | .error e => (.error e, s)
        | .ok top =>
          match describingElement d root top with
          | .error e => (.error e, s)
          | .ok full =>
            match (readChapters d root kinds full).run s with
            | (.ok chapters, s') =>
              (.ok ⟨courseId top full, courseTitle top full, chapters, some root⟩,
                s' ++ [.readCourse (courseTitle top full) chapters.length])
            | (.error e, s') => (.error e, s') := by
  unfold readOutline
  dsimp only
  cases hHas : d.has (coursePath root) with
  | error e => rfl
  | ok has =>
    cases has with
    | false => rfl
    | true =>
      cases hTop : readXml d (coursePath root) with
      | error e => rfl
      | ok top =>
        show (Reading.ofLoad (describingElement d root top) >>= fun full => do
          let chapters ← readChapters d root kinds full
          Reading.tell (.readCourse (courseTitle top full) chapters.length)
          return Outline.mk (courseId top full) (courseTitle top full) chapters (some root)).run
            s = _
        dsimp only
        cases describingElement d root top with
        | error e => rfl
        | ok full =>
          show (readChapters d root kinds full >>= _).run s = _
          dsimp only
          rw [run_bind]
          obtain ⟨outcome, s'⟩ := (readChapters d root kinds full).run s
          cases outcome <;> rfl

end Coursebook.Course
