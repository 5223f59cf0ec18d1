import Coursebook.Conversion.Convert
import Coursebook.Proofs.Conversion.World
import Coursebook.Proofs.Media.Assets

/-!
# Coursebook — the changes of a conversion

A conversion of a course directory changes the disk in four ways only: it makes the output directory
and the media directory, writes the document, and copies static files. All else are questions and
notices. So a relation between worlds that is kept by each of these changes is kept by the conversion,
however it ends.

* `writeMarkdown_keeps`, `copyFiles_keeps`, `copyAssets_keeps` — the parts.
* `convertDirectory_keeps` — a course directory.
* `convertDirectory_eq_ok` — what a conversion that succeeds has done.
-/

namespace Coursebook

open Files Media

/-- A relation between the worlds before and after something that composes, and does not tell the
notices. -/
structure IsKept (R : World → World → Prop) : Prop where
  trans : ∀ {w w₁ w₂}, R w w₁ → R w₁ w₂ → R w w₂
  quiet : ∀ w notices, R w ⟨w.disk, notices⟩

variable {R : World → World → Prop} {config : Config} {root out source target : Path} {w : World}

theorem IsKept.bind (hR : IsKept R) {α β : Type} {x : Step World α} {f : α → Step World β}
    (h : R w (x.run w).2)
    (hNext : ∀ a w₁, x.run w = (.ok a, w₁) → R w w₁ → R w₁ ((f a).run w₁).2) :
    R w ((x >>= f).run w).2 :=
  run_bind_keeps (R := R) hR.trans h hNext

/-- A step that leaves the disk alone, and what comes after it. -/
theorem IsKept.quietly (hR : IsKept R) {α β : Type} {x : Step World α} {f : α → Step World β}
    (hQuiet : (x.run w).2.disk = w.disk)
    (hNext : ∀ a notices, x.run w = (.ok a, ⟨w.disk, notices⟩) →
      R ⟨w.disk, notices⟩ ((f a).run ⟨w.disk, notices⟩).2) :
    R w ((x >>= f).run w).2 := by
  rw [run_bind]
  rcases hRun : x.run w with ⟨outcome, d, notices⟩
  rw [hRun] at hQuiet
  obtain rfl : d = w.disk := hQuiet
  cases outcome with
  | error e => exact hR.quiet w notices
  | ok a => exact hR.trans (hR.quiet w notices) (hNext a notices hRun)

theorem writeMarkdown_keeps (hR : IsKept R)
    (hMake : ∀ w, R w ((World.change (ensureDirectories out)).run w).2) (text : String)
    (hWrite : ∀ w, R w
      ((World.change (write (out.child config.markdownFile) (.ofText text))).run w).2) :
    R w ((writeMarkdown config out text).run w).2 := by
  refine hR.bind (hMake w) fun _ w₁ _ _ => ?_
  refine hR.bind (hWrite w₁) fun _ w₂ _ _ => ?_
  exact hR.quiet w₂ _

theorem copyFiles_keeps (hR : IsKept R) {files : List (List String)}
    (hCopy : ∀ names ∈ files, ∀ w, R w ((World.tryCopy (source.below names)
      (target.child (copyName names))).run w).2) :
    R w ((copyFiles source target files).run w).2 := by
  induction files generalizing w with
  | nil => exact hR.quiet w _
  | cons names r ih =>
    obtain ⟨hThis, hRest⟩ := List.forall_mem_cons.mp hCopy
    rw [copyFiles]
    refine hR.quietly rfl fun isFile notices _ => ?_
    cases isFile with
    | false => exact ih hRest
    | true =>
      refine hR.bind (hThis ⟨w.disk, notices⟩) fun result w₁ _ _ => ?_
      cases result with
      | error e => exact hR.quietly rfl fun _ _ _ => ih hRest
      | ok _ => exact hR.bind (ih hRest) fun _ w₂ _ _ => hR.quiet w₂ _

/-- The static files are listed once the media directory is there. -/
theorem copyAssets_keeps (hR : IsKept R)
    (hMake : ∀ w, R w ((World.change (ensureDirectories (mediaPath config out))).run w).2)
    (hCopy : ∀ w₁, R w w₁ → ∀ names ∈ staticFiles w₁.disk (staticPath root), ∀ w₂,
      R w₂ ((World.tryCopy ((staticPath root).below names)
        ((mediaPath config out).child (copyName names))).run w₂).2) :
    R w ((copyAssets config root out).run w).2 := by
  refine hR.bind (hMake w) fun _ w₁ _ hMade => ?_
  refine hR.quietly rfl fun there notices _ => ?_
  cases there with
  | false => exact hR.quietly rfl fun _ notices _ => hR.quiet ⟨w₁.disk, notices⟩ _
  | true =>
    refine hR.quietly rfl fun d _ hDisk => ?_
    obtain rfl : w₁.disk = d := Except.ok.inj (Prod.mk.inj hDisk).1
    refine hR.quietly (congrArg World.disk (lookInto_state ..)) fun _ _ _ => ?_
    refine hR.bind (copyFiles_keeps hR (hCopy w₁ hMade)) fun _ w₂ _ _ => ?_
    dsimp only
    split
    · exact hR.quietly rfl fun _ notices _ => hR.quiet ⟨w₂.disk, notices⟩ _
    · exact hR.quiet w₂ _

/-- The directory that a course is looked for in is the one that it is read from. -/
theorem eq_of_resolveRoot {d : Disk} {p : Path} (h : Course.resolveRoot d root = .ok p) :
    p = root := by
  unfold Course.resolveRoot at h
  cases hHas : d.has (Course.coursePath root) with
  | error e => simp [hHas, Course.ofDisk] at h
  | ok there => cases there <;> simp_all [Course.ofDisk]

/-- Up to the writing of the document nothing changes. -/
theorem convertDirectory_keeps (c : Converter) (hR : IsKept R)
    (hMakeOut : ∀ w, R w ((World.change (ensureDirectories out)).run w).2)
    (hWrite : ∀ text w, R w
      ((World.change (write (out.child c.config.markdownFile) (.ofText text))).run w).2)
    (hMakeMedia : ∀ w, R w ((World.change (ensureDirectories (mediaPath c.config out))).run w).2)
    (hCopy : ∀ w₁, R w w₁ → ∀ names ∈ staticFiles w₁.disk (staticPath root), ∀ w₂,
      R w₂ ((World.tryCopy ((staticPath root).below names)
        ((mediaPath c.config out).child (copyName names))).run w₂).2) :
    R w ((c.convertDirectory root out).run w).2 := by
  refine hR.quietly rfl fun d _ hDisk => ?_
  cases (Prod.mk.inj hDisk).1
  refine hR.quietly rfl fun root' _ hRoot => ?_
  obtain rfl : root' = root := eq_of_resolveRoot (Prod.mk.inj hRoot).1
  refine hR.quietly rfl fun _ _ _ => ?_
  refine hR.quietly rfl fun d _ _ => ?_
  refine hR.quietly rfl fun outline _ _ => ?_
  refine hR.quietly rfl fun _ _ _ => ?_
  refine hR.quietly rfl fun document _ _ => ?_
  refine hR.quietly rfl fun _ notices _ => ?_
  have hWritten := writeMarkdown_keeps (w := ⟨w.disk, notices⟩) hR hMakeOut document.1
    (hWrite document.1)
  refine hR.bind hWritten fun _ w₁ _ hBefore => ?_
  have hAssets := copyAssets_keeps hR hMakeMedia fun w₂ hSince =>
    hCopy w₂ (hR.trans (hR.quiet w notices) (hR.trans hBefore hSince))
  exact hR.bind hAssets fun _ w₂ _ _ => hR.quiet w₂ _

/-- A conversion that succeeds has read the course and made the document on the disk as it was, then
written the document, and then copied the static files. -/
theorem Converter.convertDirectory_eq_ok (c : Converter) {report : Report} {w' : World}
    (h : (c.convertDirectory root out).run w = (.ok report, w')) :
    ∃ o document markdownFile copies w₁ w₂,
      report = .ofCourse o document.2 markdownFile copies.length ∧
      (∃ s s', (Course.readOutline w.disk root c.registry.kinds).run s = (.ok o, s')) ∧
      (∃ s w₃, (c.makeDocument o root).run ⟨w.disk, s⟩ = (.ok document, w₃)) ∧
      (writeMarkdown c.config out document.1).run w₁ = (.ok markdownFile, w₂) ∧
      (copyAssets c.config root out).run w₂ = (.ok copies, w') := by
  obtain ⟨d, w₁, hDisk, h⟩ := run_bind_eq_ok h
  cases hDisk
  obtain ⟨root', w₂, hRoot, h⟩ := run_bind_eq_ok h
  obtain ⟨hResolved, rfl⟩ := Prod.mk.inj hRoot
  rw [eq_of_resolveRoot hResolved] at h
  obtain ⟨_, w₃, hTold, h⟩ := run_bind_eq_ok h
  obtain ⟨-, rfl⟩ := Prod.mk.inj hTold
  obtain ⟨d', w₄, hDisk, h⟩ := run_bind_eq_ok h
  cases hDisk
  obtain ⟨o, w₅, hOutline, h⟩ := run_bind_eq_ok h
  have hRead := World.reading_eq_ok hOutline
  obtain ⟨-, rfl⟩ := Prod.mk.inj hOutline
  obtain ⟨_, w₆, hTold, h⟩ := run_bind_eq_ok h
  obtain ⟨-, rfl⟩ := Prod.mk.inj hTold
  obtain ⟨document, w₇, hDocument, h⟩ := run_bind_eq_ok h
  obtain ⟨_, w₈, -, h⟩ := run_bind_eq_ok h
  obtain ⟨markdownFile, w₉, hWritten, h⟩ := run_bind_eq_ok h
  obtain ⟨copies, w₁₀, hCopied, h⟩ := run_bind_eq_ok h
  cases h
  exact ⟨o, document, markdownFile, copies, w₈, w₉, rfl, ⟨_, _, hRead⟩, ⟨_, _, hDocument⟩,
    hWritten, hCopied⟩

end Coursebook
