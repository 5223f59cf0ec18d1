import Coursebook.Proofs.Course.Tally

/-!
# Coursebook — documents put together from parts

A document is its header, the texts of its chapters and its footer, and these texts are put together
in the same way. So the document of some chapters followed by others has the texts that both have by
themselves, and the tally grows by what each of them adds to it. The components of a vertical may also
be moved to the one before: all that changes are the numbers of placeholders.

* `joinLines_around` — what stands around a line.
* `Writing.Adds` — steps that add the same to every tally; documents are among them.
* `writeAll_eq` — one document after the other.
* `writeDocument_chapters`, `writeDocument_sequentials` — parts that can be written, put together.
* `document_assembly` — the document of an outline that is put together from parts.
-/

namespace Coursebook.Course

open Coursebook.Files

/-! ## Lines -/

theorem joinLines_cons (line : String) (r : List String) :
    joinLines (line :: r) = line ++ String.join (r.map ("\n" ++ ·)) := by
  induction r generalizing line with
  | nil => simp [joinLines]
  | cons next r ih =>
    rw [joinLines, String.intercalate_cons_cons, ← joinLines, ih, List.map_cons, String.join_cons]
    simp only [String.append_assoc]

/-- What stands around a line does not depend on it. -/
theorem joinLines_around (l r : List String) (line : String) :
    joinLines (l ++ line :: r) =
      String.join (l.map (· ++ "\n")) ++ line ++ String.join (r.map ("\n" ++ ·)) := by
  induction l with
  | nil => simp [joinLines_cons]
  | cons first l ih =>
    have hSome : l ++ line :: r ≠ [] := by simp
    rw [List.cons_append, joinLines, String.intercalate_cons_of_ne_nil hSome, ← joinLines, ih,
      List.map_cons, String.join_cons]
    simp only [String.append_assoc]

/-! ## Progress -/

/-- How far a document has come after what another step adds. -/
def Progress.then (p q : Progress) : Progress where
  tally := ⟨p.tally.count + q.tally.count, p.tally.failed ++ q.tally.failed⟩
  notices := p.notices ++ q.notices

theorem Progress.then_assoc (p q r : Progress) : (p.then q).then r = p.then (q.then r) := by
  simp [Progress.then, Nat.add_assoc]

theorem Progress.then_empty (p : Progress) : p.then {} = p := by
  simp [Progress.then]

/-- Going past components adds what it adds to nothing. -/
theorem Progress.past_eq_then (outcome : Reference → Except String String) (p : Progress)
    (refs : List Reference) : p.past outcome refs = p.then (({} : Progress).past outcome refs) := by
  simp [Progress.past, Progress.then]

theorem Progress.past_append (outcome : Reference → Except String String) (p : Progress)
    (a b : List Reference) : p.past outcome (a ++ b) = (p.past outcome a).past outcome b := by
  simp [Progress.past, failures, Nat.add_assoc]

/-- A step that comes to the same from wherever a document has come, and adds the same to it. -/
def Writing.Adds {α : Type} (x : Writing α) : Prop :=
  ∀ p, x.run p = ((x.run {}).1, p.then (x.run {}).2)

namespace Writing.Adds

variable {α β : Type}

theorem pure (a : α) : Writing.Adds (Pure.pure a) := by
  intro p
  rw [run_pure, run_pure, p.then_empty]

theorem throw (e : Failure) : Writing.Adds (MonadExcept.throw e : Writing α) := by
  intro p
  rw [run_throw, run_throw, p.then_empty]

/-- A step that changes the progress adds what it makes of none. -/
theorem of_modify {f : Progress → Progress} (h : ∀ p, f p = p.then (f {})) :
    Writing.Adds (modify f : Writing PUnit) := by
  intro p
  rw [run_modify, run_modify, h]

theorem bind {x : Writing α} {f : α → Writing β} (hx : Writing.Adds x)
    (hf : ∀ a, Writing.Adds (f a)) : Writing.Adds (x >>= f) := by
  intro p
  cases hRun : x.run {} with
  | mk outcome q =>
    have hFrom : x.run p = (outcome, p.then q) := by rw [hx p, hRun]
    cases outcome with
    | error e => rw [run_bind_of_error hFrom, run_bind_of_error hRun]
    | ok a => rw [run_bind_of_ok hFrom, run_bind_of_ok hRun, hf a (p.then q), hf a q, p.then_assoc]

end Writing.Adds

theorem Source.visitOne_adds (s : Source) (ref : Reference) : Writing.Adds (s.visitOne ref) := by
  refine .bind (.of_modify fun p => ?_) fun _ => ?_
  · simp [Progress.counted, Progress.then]
  · cases s.componentText ref with
    | ok text => exact Writing.Adds.pure PUnit.unit
    | error e =>
      dsimp only
      split
      · exact .of_modify fun p => by simp [Progress.withFailed, Progress.then]
      · exact .throw e

theorem Source.visit_adds (s : Source) (refs : List Reference) : Writing.Adds (s.visit refs) := by
  induction refs with
  | nil => exact Writing.Adds.pure PUnit.unit
  | cons ref r ih => exact .bind (s.visitOne_adds ref) fun _ => ih

section

variable (config : Config) (registry : Registry) (d : Disk)

/-- A document is the same, or fails in the same way, whatever has been written before it. -/
theorem writeDocument_adds (o : Outline) (given : Option Path) :
    Writing.Adds (writeDocument config registry d o given) := by
  cases hRoot : (given <|> o.root) with
  | none =>
    unfold writeDocument
    rw [hRoot]
    exact .throw .noRoot
  | some root =>
    rw [writeDocument_eq config registry d o hRoot]
    exact .bind (Source.visit_adds _ _) fun _ => .pure _

/-- Writes documents one after the other, with one tally for all of them. A document that fails does
not keep the next one from being written. -/
def writeAll : List (Outline × Option Path) → Progress → List (Except Failure String) × Progress
  | [], p => ([], p)
  | (o, given) :: r, p =>
    let written := (writeDocument config registry d o given).run p
    let rest := writeAll r written.2
    (written.1 :: rest.1, rest.2)

/-- Of documents that are written one after the other, each is what it is by itself, and adds to the
tally what it adds by itself. -/
theorem writeAll_eq (calls : List (Outline × Option Path)) (p : Progress) :
    let alone := fun call : Outline × Option Path =>
      (writeDocument config registry d call.1 call.2).run {}
    writeAll config registry d calls p =
      (calls.map fun call => (alone call).1,
        { tally := ⟨p.tally.count + (calls.map fun call => (alone call).2.tally.count).sum,
            p.tally.failed ++ calls.flatMap fun call => (alone call).2.tally.failed⟩
          notices := p.notices ++ calls.flatMap fun call => (alone call).2.notices }) := by
  intro alone
  induction calls generalizing p with
  | nil => simp [writeAll]
  | cons call r ih =>
    obtain ⟨o, given⟩ := call
    rw [writeAll, writeDocument_adds config registry d o given p]
    dsimp only
    rw [ih]
    simp [Progress.then, alone, Nat.add_assoc]

end

/-! ## Components by their places -/

section

variable (outcome : Reference → Except String String)

@[simp] theorem blocks_nil (index : Nat) : blocks outcome index [] = [] := rfl

/-- Components after others are numbered from the number of these on. -/
theorem blocks_append (index : Nat) (a b : List Reference) :
    blocks outcome index (a ++ b) =
      blocks outcome index a ++ blocks outcome (index + a.length) b := by
  simp [blocks, List.zipIdx_append]

/-- Lines, each on a new one. -/
def linesAfter (lines : List String) : String := String.join (lines.map ("\n" ++ ·))

/-- The text of a sequential, around the lines of some of its verticals. -/
theorem Sequential.text_around (q : Sequential) (vs ws : List Vertical) :
    ∃ front back, ∀ mid : List Vertical,
      Sequential.text outcome { q with verticals := vs ++ mid ++ ws } =
        front ++ linesAfter (mid.flatMap fun v => blocks outcome 1 v.components) ++ back := by
  let lines (vs : List Vertical) : List String := vs.flatMap fun v => blocks outcome 1 v.components
  refine ⟨s!"### {q.title}\n" ++ linesAfter (lines vs), linesAfter (lines ws), fun mid => ?_⟩
  unfold Sequential.text
  rw [joinLines_cons, List.flatMap_append, List.flatMap_append, List.map_append, List.map_append,
    String.join_append, String.join_append, ← String.append_assoc, ← String.append_assoc]
  rfl

/-- The text of a chapter, around that of one of its sequentials. -/
theorem Chapter.text_around (c : Chapter) (qs qs' : List Sequential) :
    ∃ front back, ∀ q, Chapter.text outcome { c with sequentials := qs ++ q :: qs' } =
      front ++ Sequential.text outcome q ++ back := by
  have hLines (q : Sequential) : Chapter.text outcome { c with sequentials := qs ++ q :: qs' } =
      joinLines ((s!"## {c.title}\n" :: qs.map (Sequential.text outcome)) ++
        Sequential.text outcome q :: (qs'.map (Sequential.text outcome) ++ ["\n---\n"])) := by
    simp [Chapter.text]
  exact ⟨_, _, fun q => (hLines q).trans (joinLines_around _ _ _)⟩

/-- The document of an outline, around the text of one of its chapters. -/
theorem documentText_around (config : Config) (o : Outline) (cs cs' : List Chapter) :
    ∃ front back, ∀ c, documentText outcome config { o with chapters := cs ++ c :: cs' } =
      front ++ Chapter.text outcome c ++ back := by
  have hLines (c : Chapter) : documentText outcome config { o with chapters := cs ++ c :: cs' } =
      joinLines ((headerLines config o.title ++ cs.map (Chapter.text outcome)) ++
        Chapter.text outcome c :: (cs'.map (Chapter.text outcome) ++ footerLines)) := by
    simp [documentText]
  exact ⟨_, _, fun c => (hLines c).trans (joinLines_around _ _ _)⟩

/-- The components of a vertical, moved to the one before, only get other numbers. -/
theorem documentText_moved (config : Config) (o : Outline) (cs cs' : List Chapter) (c : Chapter)
    (qs qs' : List Sequential) (q : Sequential) (vs ws : List Vertical) (v v' : Vertical) :
    let within := fun mid : List Vertical => { o with chapters := cs ++ { c with sequentials :=
      qs ++ { q with verticals := vs ++ mid ++ ws } :: qs' } :: cs' }
    ∃ front back,
      documentText outcome config (within [v, v']) =
        front ++ linesAfter (blocks outcome 1 v'.components) ++ back ∧
      documentText outcome config (within
          [{ v with components := v.components ++ v'.components }, { v' with components := [] }]) =
        front ++ linesAfter (blocks outcome (1 + v.components.length) v'.components) ++ back := by
  intro within
  obtain ⟨front₁, back₁, hDocument⟩ := documentText_around outcome config o cs cs'
  obtain ⟨front₂, back₂, hChapter⟩ := Chapter.text_around outcome c qs qs'
  obtain ⟨front₃, back₃, hSequential⟩ := Sequential.text_around outcome q vs ws
  have hWithin (mid : List Vertical) : documentText outcome config (within mid) =
      front₁ ++ (front₂ ++ (front₃ ++
        linesAfter (mid.flatMap fun v => blocks outcome 1 v.components) ++ back₃) ++ back₂) ++
          back₁ := by
    rw [hDocument, hChapter, hSequential]
  -- what comes before are also the components that the vertical before has had
  refine ⟨front₁ ++ front₂ ++ front₃ ++ linesAfter (blocks outcome 1 v.components),
    back₃ ++ back₂ ++ back₁, ?_, ?_⟩
  · rw [hWithin]
    simp [linesAfter, String.append_assoc]
  · rw [hWithin]
    simp [linesAfter, blocks_append, String.append_assoc]

end

/-! ## Outlines -/

section

variable {config : Config} {registry : Registry} {d : Disk} {o : Outline} {given : Option Path}
  {root : Path}

/-- A document is written exactly if its walk goes on after every component. -/
theorem writeDocument_run (hRoot : (given <|> o.root) = some root)
    (hAll : ∀ ref ∈ o.references, (Source.mk registry d root).GoesOn ref) (p : Progress) :
    (writeDocument config registry d o given).run p =
      (.ok (documentText (Source.mk registry d root).outcome config o),
        p.past (Source.mk registry d root).outcome o.references) := by
  rw [writeDocument_eq config registry d o hRoot,
    run_bind_of_ok (Source.visit_run_of_goesOn hAll p), run_pure]

theorem goesOn_of_writeDocument (hRoot : (given <|> o.root) = some root) {p p' : Progress}
    {text : String} (hRun : (writeDocument config registry d o given).run p = (.ok text, p')) :
    ∀ ref ∈ o.references, (Source.mk registry d root).GoesOn ref := by
  by_contra hSome
  obtain ⟨before, ref, after, e, hRefs, hBefore, hText, hLeaf⟩ := Source.exists_first hSome
  rw [writeDocument_eq config registry d o hRoot, hRefs,
    run_bind_of_error (Source.visit_run_of_ends hBefore hText hLeaf p)] at hRun
  cases hRun

/-- A document with the components of two others that can be written can be written, and adds to the
tally what these add. -/
theorem writeDocument_then {a b : Outline} (hRoot : (given <|> o.root) = some root)
    (hRootA : (given <|> a.root) = some root) (hRootB : (given <|> b.root) = some root)
    (hRefs : o.references = a.references ++ b.references)
    (hA : ∃ text p, (writeDocument config registry d a given).run {} = (.ok text, p))
    (hB : ∃ text p, (writeDocument config registry d b given).run {} = (.ok text, p)) :
    (∀ ref ∈ o.references, (Source.mk registry d root).GoesOn ref) ∧
    ∀ p, (writeDocument config registry d o given).run p =
      (.ok (documentText (Source.mk registry d root).outcome config o),
        (p.then ((writeDocument config registry d a given).run {}).2).then
          ((writeDocument config registry d b given).run {}).2) := by
  obtain ⟨textA, p₁, hRunA⟩ := hA
  obtain ⟨textB, p₂, hRunB⟩ := hB
  have hAllA := goesOn_of_writeDocument hRootA hRunA
  have hAllB := goesOn_of_writeDocument hRootB hRunB
  have hAll : ∀ ref ∈ o.references, (Source.mk registry d root).GoesOn ref := by
    rw [hRefs]
    exact List.forall_mem_append.mpr ⟨hAllA, hAllB⟩
  refine ⟨hAll, fun p => ?_⟩
  rw [writeDocument_run hRoot hAll, writeDocument_run hRootA hAllA, writeDocument_run hRootB hAllB,
    hRefs, Progress.past_append, Progress.past_eq_then, Progress.past_eq_then _ p]

/-- Documents with the same components are written alike, or fail alike. -/
theorem writeDocument_alike {o' : Outline} (hRoot : (given <|> o.root) = some root)
    (hRoot' : (given <|> o'.root) = some root) (hRefs : o'.references = o.references)
    (p : Progress) :
    let outcome := (Source.mk registry d root).outcome
    (∃ p', (writeDocument config registry d o given).run p =
        (.ok (documentText outcome config o), p') ∧
      (writeDocument config registry d o' given).run p =
        (.ok (documentText outcome config o'), p')) ∨
    ∃ e p', (writeDocument config registry d o given).run p = (.error e, p') ∧
      (writeDocument config registry d o' given).run p = (.error e, p') := by
  rw [writeDocument_eq config registry d o hRoot, writeDocument_eq config registry d o' hRoot',
    hRefs]
  cases hWalk : ((Source.mk registry d root).visit o.references).run p with
  | mk ending p' =>
    cases ending with
    | ok _ => exact .inl ⟨p', run_bind_of_ok hWalk, run_bind_of_ok hWalk⟩
    | error e => exact .inr ⟨e, p', run_bind_of_error hWalk, run_bind_of_error hWalk⟩

end

/-- An outline with other chapters. -/
def Outline.withChapters (o : Outline) (cs : List Chapter) : Outline := { o with chapters := cs }

/-- A chapter with other sequentials. -/
def Chapter.withSequentials (c : Chapter) (qs : List Sequential) : Chapter :=
  { c with sequentials := qs }

/-- A sequential with other verticals. -/
def Sequential.withVerticals (q : Sequential) (vs : List Vertical) : Sequential :=
  { q with verticals := vs }

/-- What surrounds the texts of the chapters in a document. -/
def Outline.frame (config : Config) (o : Outline) (texts : List String) : String :=
  joinLines (headerLines config o.title ++ texts ++ footerLines)

/-- What surrounds the texts of the sequentials in a chapter. -/
def Chapter.frame (c : Chapter) (texts : List String) : String :=
  joinLines (s!"## {c.title}\n" :: texts ++ ["\n---\n"])

section

variable (outcome : Reference → Except String String)

theorem documentText_withChapters (config : Config) (o : Outline) (cs : List Chapter) :
    documentText outcome config (o.withChapters cs) =
      o.frame config (cs.map (Chapter.text outcome)) := rfl

theorem Chapter.text_withSequentials (c : Chapter) (qs : List Sequential) :
    Chapter.text outcome (c.withSequentials qs) = c.frame (qs.map (Sequential.text outcome)) := rfl

end

@[simp] theorem Outline.references_withChapters (o : Outline) (cs : List Chapter) :
    (o.withChapters cs).references = cs.flatMap Chapter.references := rfl

@[simp] theorem Chapter.references_withSequentials (c : Chapter) (qs : List Sequential) :
    (c.withSequentials qs).references = qs.flatMap Sequential.references := rfl

@[simp] theorem Sequential.references_withVerticals (q : Sequential) (vs : List Vertical) :
    (q.withVerticals vs).references = vs.flatMap (·.components) := rfl

/-! ## Documents put together -/

section

variable {config : Config} {registry : Registry} {d : Disk} {o : Outline} {given : Option Path}
  {root : Path} (hRoot : (given <|> o.root) = some root)

include hRoot

/-- The document of a chapter alone, whose components are among others that the walk goes on after. -/
theorem writeDocument_chapter {refs : List Reference}
    (hAll : ∀ ref ∈ refs, (Source.mk registry d root).GoesOn ref) {c : Chapter}
    (hSub : c.references ⊆ refs) (p : Progress) :
    ((writeDocument config registry d (o.withChapters [c]) given).run p).1 =
      .ok (o.frame config [Chapter.text (Source.mk registry d root).outcome c]) := by
  have hRoot' : (given <|> (o.withChapters [c]).root) = some root := hRoot
  have hGoesOn : ∀ ref ∈ (o.withChapters [c]).references, (Source.mk registry d root).GoesOn ref :=
    fun ref hRef => hAll ref (hSub (by simpa using hRef))
  rw [writeDocument_run hRoot' hGoesOn p]
  rfl

/-- Of chapters some can be written, and so can the others. -/
theorem writeDocument_chapters {a b : List Chapter}
    (hA : ∃ text p, (writeDocument config registry d (o.withChapters a) given).run {} = (.ok text, p))
    (hB : ∃ text p, (writeDocument config registry d (o.withChapters b) given).run {} = (.ok text, p)) :
    let outcome := (Source.mk registry d root).outcome
    let write := fun cs => (writeDocument config registry d (o.withChapters cs) given).run
    (∀ p, write (a ++ b) p =
      (.ok (o.frame config (a.map (Chapter.text outcome) ++ b.map (Chapter.text outcome))),
        (p.then (write a {}).2).then (write b {}).2)) ∧
    ∀ c ∈ a ++ b, ∀ p, (write [c] p).1 = .ok (o.frame config [Chapter.text outcome c]) := by
  intro outcome write
  have hRoot' (cs : List Chapter) : (given <|> (o.withChapters cs).root) = some root := hRoot
  obtain ⟨hAll, hRun⟩ := writeDocument_then (hRoot' (a ++ b)) (hRoot' a) (hRoot' b) (by simp) hA hB
  refine ⟨fun p => ?_, fun c hc p => writeDocument_chapter hRoot hAll ?_ p⟩
  · rw [← List.map_append, ← documentText_withChapters]
    exact hRun p
  · exact fun ref hRef => List.mem_flatMap.mpr ⟨c, hc, hRef⟩

/-- Of sequentials in a chapter some can be written, and so can the others. -/
theorem writeDocument_sequentials {c : Chapter} {a b : List Sequential}
    (hA : ∃ text p, (writeDocument config registry d (o.withChapters [c.withSequentials a])
      given).run {} = (.ok text, p))
    (hB : ∃ text p, (writeDocument config registry d (o.withChapters [c.withSequentials b])
      given).run {} = (.ok text, p)) :
    let outcome := (Source.mk registry d root).outcome
    let write := fun qs =>
      (writeDocument config registry d (o.withChapters [c.withSequentials qs]) given).run
    (∀ p, write (a ++ b) p =
      (.ok (o.frame config
          [c.frame (a.map (Sequential.text outcome) ++ b.map (Sequential.text outcome))]),
        (p.then (write a {}).2).then (write b {}).2)) ∧
    ∀ q ∈ a ++ b, ∀ p, (write [q] p).1 =
      .ok (o.frame config [c.frame [Sequential.text outcome q]]) := by
  intro outcome write
  have hRoot' (qs : List Sequential) :
      (given <|> (o.withChapters [c.withSequentials qs]).root) = some root := hRoot
  obtain ⟨hAll, hRun⟩ := writeDocument_then (hRoot' (a ++ b)) (hRoot' a) (hRoot' b) (by simp) hA hB
  refine ⟨fun p => ?_, fun q hq p => writeDocument_chapter hRoot hAll ?_ p⟩
  · rw [← List.map_append, ← Chapter.text_withSequentials]
    exact hRun p
  · intro ref hRef
    simp only [Chapter.references_withSequentials, List.flatMap_singleton] at hRef
    simp only [Outline.references_withChapters, List.flatMap_singleton,
      Chapter.references_withSequentials]
    exact List.mem_flatMap.mpr ⟨q, hq, hRef⟩

end

/--
**A document is put together from its parts.** If the documents of some chapters and of some others
can be written, so can that of the first followed by the second. It is the text of each chapter,
within the same header and footer that the document of this chapter alone has, and the tally grows by
what the two documents add to an empty one. The same holds of the sequentials of a chapter.

Documents that are written one after the other, or fail, are what they are by themselves and add to
the tally what they add by themselves. If the components of a vertical are moved to the end of the
one before it, the document changes only in the numbers that the placeholders for them have.
-/
theorem document_assembly (config : Config) (registry : Registry) (d : Disk) (o : Outline)
    {given : Option Path} {root : Path} (hRoot : (given <|> o.root) = some root) :
    let outcome := (Source.mk registry d root).outcome
    let write := fun cs => (writeDocument config registry d (o.withChapters cs) given).run
    let IsWritten := fun cs => ∃ text p, write cs {} = (.ok text, p)
    (∀ a b, IsWritten a → IsWritten b →
      (∀ p, write (a ++ b) p =
        (.ok (o.frame config (a.map (Chapter.text outcome) ++ b.map (Chapter.text outcome))),
          (p.then (write a {}).2).then (write b {}).2)) ∧
      ∀ c ∈ a ++ b, ∀ p, (write [c] p).1 = .ok (o.frame config [Chapter.text outcome c])) ∧
    (∀ (c : Chapter) a b, IsWritten [c.withSequentials a] → IsWritten [c.withSequentials b] →
      (∀ p, write [c.withSequentials (a ++ b)] p =
        (.ok (o.frame config
            [c.frame (a.map (Sequential.text outcome) ++ b.map (Sequential.text outcome))]),
          (p.then (write [c.withSequentials a] {}).2).then (write [c.withSequentials b] {}).2)) ∧
      ∀ q ∈ a ++ b, ∀ p, (write [c.withSequentials [q]] p).1 =
        .ok (o.frame config [c.frame [Sequential.text outcome q]])) ∧
    (∀ calls p, ∃ notices,
      let alone := fun call : Outline × Option Path =>
        (writeDocument config registry d call.1 call.2).run {}
      writeAll config registry d calls p = (calls.map fun call => (alone call).1,
        ⟨⟨p.tally.count + (calls.map fun call => (alone call).2.tally.count).sum,
          p.tally.failed ++ calls.flatMap fun call => (alone call).2.tally.failed⟩, notices⟩)) ∧
    ∀ cs cs' (c : Chapter) qs qs' (q : Sequential) vs ws (v v' : Vertical),
      let within := fun mid =>
        cs ++ c.withSequentials (qs ++ q.withVerticals (vs ++ mid ++ ws) :: qs') :: cs'
      let moved := within
        [{ v with components := v.components ++ v'.components }, { v' with components := [] }]
      ∃ front back, ∀ p,
        (∃ p', write (within [v, v']) p =
            (.ok (front ++ linesAfter (blocks outcome 1 v'.components) ++ back), p') ∧
          write moved p = (.ok (front ++
            linesAfter (blocks outcome (1 + v.components.length) v'.components) ++ back), p')) ∨
        ∃ e p', write (within [v, v']) p = (.error e, p') ∧ write moved p = (.error e, p') := by
  intro outcome write IsWritten
  refine ⟨fun a b hA hB => writeDocument_chapters hRoot hA hB,
    fun c a b hA hB => writeDocument_sequentials hRoot hA hB,
    fun calls p => ⟨_, writeAll_eq config registry d calls p⟩, ?_⟩
  intro cs cs' c qs qs' q vs ws v v' within moved
  obtain ⟨front, back, hText, hMoved⟩ :=
    documentText_moved outcome config o cs cs' c qs qs' q vs ws v v'
  have hRoot' (cs : List Chapter) : (given <|> (o.withChapters cs).root) = some root := hRoot
  have hRefs : (o.withChapters moved).references = (o.withChapters (within [v, v'])).references := by
    simp [moved, within]
  refine ⟨front, back, fun p => ?_⟩
  rw [← hText, ← hMoved]
  exact writeDocument_alike (hRoot' _) (hRoot' _) hRefs p

/-- A chapter with a component that fails, followed by one without. -/
theorem failing_chapter_first :
    let root : Path := ⟨.relative, ["c"]⟩
    let registry : Registry :=
      ⟨[("lost", ⟨fun _ root _ => .error (.file ⟨.missing, root⟩), fun _ => .ok ""⟩)]⟩
    let lost : Reference := ⟨"lost", "p", none⟩
    let poll : Reference := ⟨"poll", "q", none⟩
    let first : Chapter := ⟨"a", "A", [⟨"s", "S", [⟨"v", "V", [lost, poll]⟩]⟩]⟩
    let second : Chapter := ⟨"b", "B", [⟨"t", "T", [⟨"w", "W", [poll]⟩]⟩]⟩
    let o : Outline := ⟨"C", "C", [], none⟩
    (some root <|> o.root) = some root ∧ ∃ text p,
      (writeDocument {} registry {} (o.withChapters [first, second]) (some root)).run {} =
        (.ok text, p) ∧ p.tally.count = 3 ∧ p.tally.failed.map (·.id) = ["p"] := by
  intro root registry lost poll first second o
  have hRoot : (some root <|> o.root) = some root := rfl
  -- the first component fails by itself, the other one is of a kind that is not known
  have hLost : (Source.mk registry {} root).componentText lost =
      .error (.file ⟨.missing, root⟩) := by
    have hKind : Text.lower "lost" = "lost" := by decide
    rw [Source.componentText, Registry.load, Registry.get?, hKind]
    rfl
  have hPoll : (Source.mk registry {} root).componentText poll = .ok (unknownText "poll" "q") := by
    have hKind : Text.lower "poll" = "poll" := by decide
    rw [Source.componentText, Registry.load, Registry.get?, hKind]
    rfl
  have hGoesOn : ∀ ref ∈ [lost, poll], (Source.mk registry {} root).GoesOn ref := by
    rw [List.forall_mem_cons, List.forall_mem_singleton]
    constructor
    · intro e he
      cases hLost.symm.trans he
      rfl
    · intro e he
      cases hPoll.symm.trans he
  have hRoot' (cs : List Chapter) : (some root <|> (o.withChapters cs).root) = some root := rfl
  have hFirst : (writeDocument {} registry {} (o.withChapters [first]) (some root)).run {} = _ :=
    writeDocument_run (hRoot' [first]) hGoesOn {}
  have hSecond : (writeDocument {} registry {} (o.withChapters [second]) (some root)).run {} = _ :=
    writeDocument_run (hRoot' [second])
      (fun ref hRef => hGoesOn ref (List.mem_cons_of_mem lost hRef)) {}
  obtain ⟨hChapters, -⟩ := document_assembly {} registry {} o hRoot
  obtain ⟨hRun, -⟩ := hChapters [first] [second] ⟨_, _, hFirst⟩ ⟨_, _, hSecond⟩
  have hRun := hRun {}
  dsimp only at hRun
  rw [hFirst, hSecond] at hRun
  refine ⟨hRoot, _, _, hRun, rfl, ?_⟩
  have hFailed : (Source.mk registry {} root).outcome lost =
      .error (Failure.file ⟨.missing, root⟩).message := by rw [Source.outcome, hLost]; rfl
  have hKept : (Source.mk registry {} root).outcome poll = .ok (unknownText "poll" "q") := by
    rw [Source.outcome, hPoll]
    rfl
  have hRefs : (o.withChapters [first]).references = [lost, poll] := rfl
  have hRefs' : (o.withChapters [second]).references = [poll] := rfl
  rw [hRefs, hRefs']
  generalize (Source.mk registry {} root).outcome = outcome at hFailed hKept
  simp [Progress.then, Progress.past, failures, failure?, hFailed, hKept, lost]

end Coursebook.Course
