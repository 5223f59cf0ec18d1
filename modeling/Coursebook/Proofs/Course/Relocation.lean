import Coursebook.Proofs.Course.Assembly
import Coursebook.Proofs.Course.Locality
import Coursebook.Proofs.Files.Elsewhere

/-!
# Coursebook — a course in another place

A course can be kept in any directory, and be read from there. What is read then is the same, but a
failure names the file that it was met with, and so the directory of the course as well
(`Failure.Moved`). That is how a document comes to tell where its course was: a component that fails
leaves its message there.

* `Load.Alike` — what is read of a course in one place and in another.
* `Load.Alike.bind`, `Reading.Alike.bind` — one step after the other.
* `componentText_alike`, `readOutline_alike` — components and outline.
-/

namespace Coursebook

open Files

/-! ## Failures -/

/-- The path that a failure names. -/
def Failure.path? : Failure → Option Path
  | .file e => some e.path
  | .noCourse path | .noCourseIn path | .xml path _ => some path
  | .component (.missing _ path) | .component (.malformed _ path ..) => some path
  | .noRoot | .text _ | .component (.wrongRoot _) | .page _ | .archive _ | .cutShort => none

/-- Two failures that are the same, but for the place of the course in the path that they name. -/
inductive Failure.Moved (root root' : Path) : Failure → Failure → Prop where
  | file (fault : FileFault) {p p' : Path} (hp : Path.Moved root root' p p') :
      Moved root root' (.file ⟨fault, p⟩) (.file ⟨fault, p'⟩)
  | noCourse {p p' : Path} (hp : Path.Moved root root' p p') :
      Moved root root' (.noCourse p) (.noCourse p')
  | xml (e : Xml.XmlError) {p p' : Path} (hp : Path.Moved root root' p p') :
      Moved root root' (.xml p e) (.xml p' e)
  | missing (file : Course.ComponentFile) {p p' : Path} (hp : Path.Moved root root' p p') :
      Moved root root' (.component (.missing file p)) (.component (.missing file p'))
  | malformed (id : String) (fault : Xml.Fault) (position : Xml.Position) {p p' : Path}
      (hp : Path.Moved root root' p p') :
      Moved root root' (.component (.malformed id p fault position))
        (.component (.malformed id p' fault position))
  | same {e : Failure} (he : e.path? = none) : Moved root root' e e

/-- A failure that names no path is the same everywhere. -/
theorem Failure.Moved.eq_of_path?_eq_none {root root' : Path} {e e' : Failure}
    (h : Failure.Moved root root' e e') (he : e.path? = none) : e' = e := by
  cases h with
  | same => rfl
  | file | noCourse | xml | missing | malformed => cases he

end Coursebook

namespace Coursebook.Course

open Coursebook.Files

/-! ## Outcomes -/

/-- What is read of a course in one place, and in another: it is related, or fails in the same way;
or in one of the places a path is too long, and nothing is said about the other one. -/
inductive Load.Alike (root root' : Path) {α β : Type} (R : α → β → Prop) :
    Load α → Load β → Prop where
  | ok {a : α} {b : β} (h : R a b) : Alike root root' R (.ok a) (.ok b)
  | error {e e' : Failure} (h : Failure.Moved root root' e e') :
      Alike root root' R (.error e) (.error e')
  | tooLong {p p' : Path} (hp : Path.Moved root root' p p') (hLong : isLongPath (toString p) = true)
      (y : Load β) : Alike root root' R (.error (.file ⟨.nameTooLong, p⟩)) y
  | tooLong' {p p' : Path} (hp : Path.Moved root root' p p')
      (hLong : isLongPath (toString p') = true) (x : Load α) :
      Alike root root' R x (.error (.file ⟨.nameTooLong, p'⟩))

namespace Load.Alike

variable {root root' : Path} {α β γ δ : Type} {R : α → β → Prop} {S : γ → δ → Prop}

/-- An outcome whose failures are told in a way that names no path is like itself. -/
theorem mapError_refl {ε : Type} {x : Except ε α} {f : ε → Failure}
    (hf : ∀ fault, (f fault).path? = none) :
    Load.Alike root root' Eq (x.mapError f) (x.mapError f) := by
  cases x with
  | ok a => exact .ok rfl
  | error fault => exact .error (.same (hf fault))

theorem bind {x : Load α} {y : Load β} {f : α → Load γ} {g : β → Load δ}
    (h : Load.Alike root root' R x y)
    (hNext : ∀ a b, x = .ok a → y = .ok b → R a b → Load.Alike root root' S (f a) (g b)) :
    Load.Alike root root' S (x >>= f) (y >>= g) := by
  cases h with
  | ok hR => exact hNext _ _ rfl rfl hR
  | error hMoved => exact .error hMoved
  | tooLong hp hLong y => exact .tooLong hp hLong (y >>= g)
  | tooLong' hp hLong x => exact .tooLong' hp hLong (x >>= f)

/-- Failures may be put in other words, as long as those of files are kept. -/
theorem mapError {x : Load α} {y : Load β} {f g : Failure → Failure}
    (h : Load.Alike root root' R x y) (hFile : ∀ e, f (.file e) = .file e)
    (hFile' : ∀ e, g (.file e) = .file e)
    (hMoved : ∀ e e', Failure.Moved root root' e e' → Failure.Moved root root' (f e) (g e')) :
    Load.Alike root root' R (x.mapError f) (y.mapError g) := by
  cases h with
  | ok hR => exact .ok hR
  | error h => exact .error (hMoved _ _ h)
  | tooLong hp hLong y =>
    rw [mapError_error, hFile]
    exact .tooLong hp hLong _
  | tooLong' hp hLong x =>
    rw [mapError_error, hFile']
    exact .tooLong' hp hLong _

end Load.Alike

section

variable {d d' : Disk} {root root' p p' : Path}

/-! ## Files -/

theorem ask_alike (h : d.SameAt root d' root') (hp : Path.Moved root root' p p')
    (question : Entry → Bool) :
    Load.Alike root root' Eq (ofDisk (d.ask p question)) (ofDisk (d'.ask p' question)) := by
  unfold ofDisk Disk.ask
  rcases h.entry hp with hEntry | hLong | hLong
  · rw [hEntry]
    cases d.entry p with
    | ok e => exact .ok rfl
    | error fault =>
      cases fault with
      | nameTooLong => exact .error (.file .nameTooLong hp)
      | missing | exists_ | notDirectory | isDirectory | nullCharacter => exact .ok rfl
  · rw [hLong.entry]
    exact .tooLong hp hLong.long _
  · rw [hLong.entry]
    exact .tooLong' hp hLong.long _

theorem read_alike (h : d.SameAt root d' root') (hp : Path.Moved root root' p p') :
    Load.Alike root root' Eq (ofDisk (d.read p)) (ofDisk (d'.read p')) := by
  unfold ofDisk Disk.read
  rcases h.entry hp with hEntry | hLong | hLong
  · rw [hEntry]
    cases d.entry p with
    | error fault => exact .error (.file fault hp)
    | ok e =>
      cases e with
      | directory => exact .error (.file .isDirectory hp)
      | file c => exact .ok rfl
  · rw [hLong.entry]
    exact .tooLong hp hLong.long _
  · rw [hLong.entry]
    exact .tooLong' hp hLong.long _

theorem readXml_alike (h : d.SameAt root d' root') (hp : Path.Moved root root' p p') :
    Load.Alike root root' Eq (readXml d p) (readXml d' p') := by
  refine (read_alike h hp).bind ?_
  rintro c _ - - rfl
  cases Xml.Element.read c.bytes false with
  | ok e => exact .ok rfl
  | error e => exact .error (.xml e hp)

theorem readComponentXml_alike (h : d.SameAt root d' root') (hp : Path.Moved root root' p p')
    (id : String) : Load.Alike root root' Eq (readComponentXml d p id) (readComponentXml d' p' id) := by
  refine (readXml_alike h hp).mapError (fun _ => rfl) (fun _ => rfl) fun e e' hMoved => ?_
  cases hMoved with
  | @xml e q q' hq =>
    cases e with
    | malformed fault position => exact .malformed id fault position hp
    | unknownEncoding | notTextEncoding | multiOctetEncoding => exact .xml _ hq
  | file fault hq => exact .file fault hq
  | noCourse hq => exact .noCourse hq
  | missing file hq => exact .missing file hq
  | malformed id fault position hq => exact .malformed id fault position hq
  | same he =>
    cases e with
    | xml => cases he
    | _ => exact .same he

theorem readText_alike (h : d.SameAt root d' root') (hp : Path.Moved root root' p p') :
    Load.Alike root root' Eq (readText d p) (readText d' p') := by
  refine (read_alike h hp).bind ?_
  rintro c _ - - rfl
  exact .mapError_refl fun _ => rfl

theorem needFile_alike (h : d.SameAt root d' root') (hp : Path.Moved root root' p p')
    (file : ComponentFile) : Load.Alike root root' Eq (needFile d file p) (needFile d' file p') := by
  refine (ask_alike h hp fun _ => true).bind ?_
  rintro has _ - - rfl
  cases has with
  | true => exact .ok rfl
  | false => exact .error (.missing file hp)

/-! ## Components -/

theorem componentPath_moved {directory id ending : String}
    (hDirectory : Path.ofString directory = ⟨.relative, [directory]⟩) (hName : directory ≠ "..")
    (hId : IsConfined id) (hEnding : ending ∈ [".xml", ".html"]) :
    Path.Moved root root' (componentPath root directory id ending)
      (componentPath root' directory id ending) := by
  obtain ⟨names, hNames, hStays, hBelow⟩ :=
    exists_componentPath_eq_below hDirectory hName hId hEnding
  exact ⟨names, hNames, hStays, hBelow root, hBelow root'⟩

theorem loadHtml_alike (h : d.SameAt root d' root') {ref : Reference} (hRef : IsConfined ref.id) :
    Load.Alike root root' Eq (loadHtml d root ref) (loadHtml d' root' ref) := by
  have hMetadata : Path.Moved root root' (componentPath root "html" ref.id ".xml")
      (componentPath root' "html" ref.id ".xml") :=
    componentPath_moved (by decide) (by decide) hRef (by decide)
  have hBody : Path.Moved root root' (componentPath root "html" ref.id ".html")
      (componentPath root' "html" ref.id ".html") :=
    componentPath_moved (by decide) (by decide) hRef (by decide)
  unfold loadHtml
  refine (needFile_alike h hMetadata _).bind fun _ _ _ _ _ => ?_
  refine (needFile_alike h hBody _).bind fun _ _ _ _ _ => ?_
  refine (readComponentXml_alike h hMetadata ref.id).bind ?_
  rintro e _ - - rfl
  refine (readText_alike h hBody).bind ?_
  rintro body _ - - rfl
  exact .ok rfl

theorem loadProblem_alike (h : d.SameAt root d' root') {ref : Reference} (hRef : IsConfined ref.id) :
    Load.Alike root root' Eq (loadProblem d root ref) (loadProblem d' root' ref) := by
  have hFile : Path.Moved root root' (componentPath root "problem" ref.id ".xml")
      (componentPath root' "problem" ref.id ".xml") :=
    componentPath_moved (by decide) (by decide) hRef (by decide)
  unfold loadProblem
  refine (needFile_alike h hFile _).bind fun _ _ _ _ _ => ?_
  refine (readComponentXml_alike h hFile ref.id).bind ?_
  rintro e _ - - rfl
  exact .mapError_refl fun _ => rfl

theorem loadVideo_alike (h : d.SameAt root d' root') {ref : Reference} (hRef : IsConfined ref.id) :
    Load.Alike root root' Eq (loadVideo d root ref) (loadVideo d' root' ref) := by
  have hFile : Path.Moved root root' (componentPath root "video" ref.id ".xml")
      (componentPath root' "video" ref.id ".xml") :=
    componentPath_moved (by decide) (by decide) hRef (by decide)
  unfold loadVideo
  refine (needFile_alike h hFile _).bind fun _ _ _ _ _ => ?_
  refine (readComponentXml_alike h hFile ref.id).bind ?_
  rintro e _ - - rfl
  exact .mapError_refl fun _ => rfl

/-- The directory of the page about the course. -/
theorem aboutDirectory_moved (root root' : Path) :
    Path.Moved root root' (root.child "about") (root'.child "about") :=
  ⟨["about"], List.cons_ne_nil _ _, by simp [staysIn], rfl, rfl⟩

/-- A page in this directory. -/
theorem aboutPage_moved (root root' : Path) (name : String) :
    Path.Moved root root' ((root.child "about").below [name]) ((root'.child "about").below [name]) := by
  have hBelow (root : Path) : (root.child "about").below [name] = root.below ["about", name] := by
    show (root.below ["about"]).below [name] = root.below ["about", name]
    simp [Path.below, Path.join]
  exact ⟨["about", name], List.cons_ne_nil _ _, by simp [staysIn], hBelow root, hBelow root'⟩

/-- The pages in this directory are the same, in the same order. -/
theorem pagesIn_moved (h : d.SameAt root d' root')
    (hIs : ¬ d.TooLong (root.child "about")) (hIs' : ¬ d'.TooLong (root'.child "about")) :
    ∃ names : List String,
      pagesIn d (root.child "about") = names.map (fun name => (root.child "about").below [name]) ∧
      pagesIn d' (root'.child "about") =
        names.map (fun name => (root'.child "about").below [name]) := by
  rcases h.list (aboutDirectory_moved root root') with hList | hLong | hLong
  · refine ⟨_, rfl, ?_⟩
    unfold pagesIn
    dsimp only
    rw [mergeSort_congr (hList.filterMap _)]
  · exact absurd hLong hIs
  · exact absurd hLong hIs'

/-- The page about the course is the same one in both places, if there is any. -/
theorem aboutPage?_alike (h : d.SameAt root d' root')
    (hIs : ¬ d.TooLong (root.child "about")) (hIs' : ¬ d'.TooLong (root'.child "about")) :
    Load.Alike root root' (Option.Rel (Path.Moved root root'))
      (aboutPage? d (root.child "about")) (aboutPage? d' (root'.child "about")) := by
  have hOverview : Path.Moved root root' ((root.child "about").child "overview.html")
      ((root'.child "about").child "overview.html") := aboutPage_moved root root' "overview.html"
  unfold aboutPage?
  refine (ask_alike h hOverview _).bind ?_
  rintro isFile _ - - rfl
  cases isFile with
  | true => exact .ok (.some hOverview)
  | false =>
    obtain ⟨names, hPages, hPages'⟩ := pagesIn_moved h hIs hIs'
    rw [hPages, hPages']
    cases names with
    | nil => exact .ok .none
    | cons name r => exact .ok (.some (aboutPage_moved root root' name))

theorem loadAbout_alike (h : d.SameAt root d' root') (ref : Reference) :
    Load.Alike root root' Eq (loadAbout d root ref) (loadAbout d' root' ref) := by
  have hDirectory := aboutDirectory_moved root root'
  unfold loadAbout
  refine (ask_alike h hDirectory _).bind ?_
  rintro isDirectory _ hIs hIs' rfl
  cases isDirectory with
  | false => exact .error (.missing .aboutDirectory hDirectory)
  | true =>
    -- a directory that is there has no path that is too long
    have hShort {d : Disk} {p : Path} (hIs : ofDisk (d.ask p (· == .directory)) = .ok true) :
        ¬ d.TooLong p := by
      intro hLong
      rw [hLong.ask] at hIs
      cases hIs
    refine (aboutPage?_alike h (hShort hIs) (hShort hIs')).bind ?_
    rintro _ _ - - (hPage | _)
    · refine (readText_alike h hPage).bind ?_
      rintro text _ - - rfl
      exact .ok rfl
    · exact .error (.missing .aboutPage hDirectory)

theorem load_alike (h : d.SameAt root d' root') (config : Config) {ref : Reference}
    (hRef : ref.IsConfined) :
    Load.Alike root root' Eq ((Registry.standard config).load d root ref)
      ((Registry.standard config).load d' root' ref) := by
  unfold Reference.IsConfined at hRef
  rw [standard_load, standard_load]
  split
  · rename_i hKind
    exact loadHtml_alike h (hRef (by simp [hKind]))
  · rename_i hKind
    exact loadProblem_alike h (hRef (by simp [hKind]))
  · rename_i hKind
    exact loadVideo_alike h (hRef (by simp [hKind]))
  · exact loadAbout_alike h ref
  · exact .ok rfl

/-- A component has the same text in both places, or fails in the same way. -/
theorem componentText_alike (h : d.SameAt root d' root') (config : Config) {ref : Reference}
    (hRef : ref.IsConfined) :
    Load.Alike root root' Eq ((Source.mk (.standard config) d root).componentText ref)
      ((Source.mk (.standard config) d' root').componentText ref) := by
  refine (load_alike h config hRef).bind ?_
  rintro c _ - - rfl
  dsimp only
  rw [standard_render]
  exact .mapError_refl fun _ => rfl

end

/-! ## The outline -/

/-- Two readings whose outcomes are alike, whatever notices have been given before. -/
def Reading.Alike (root root' : Path) {α β : Type} (R : α → β → Prop) (x : Reading α)
    (y : Reading β) : Prop :=
  ∀ s t, Load.Alike root root' R (x.run s).1 (y.run t).1

namespace Reading.Alike

variable {root root' : Path} {α β γ δ : Type} {R : α → β → Prop} {S : γ → δ → Prop}

theorem pure {a : α} {b : β} (h : R a b) :
    Reading.Alike root root' R (Pure.pure a) (Pure.pure b) :=
  fun _ _ => .ok h

theorem bind {x : Reading α} {y : Reading β} {f : α → Reading γ} {g : β → Reading δ}
    (h : Reading.Alike root root' R x y)
    (hNext : ∀ a b, R a b → Reading.Alike root root' S (f a) (g b)) :
    Reading.Alike root root' S (x >>= f) (y >>= g) := by
  intro s t
  have hFirst := h s t
  rw [run_bind, run_bind]
  rcases hX : x.run s with ⟨outcome, s₁⟩
  rcases hY : y.run t with ⟨outcome', t₁⟩
  rw [hX, hY] at hFirst
  dsimp only at hFirst
  cases hFirst with
  | ok hR => exact hNext _ _ hR s₁ t₁
  | error hMoved => exact .error hMoved
  | tooLong hp hLong => exact .tooLong hp hLong _
  | tooLong' hp hLong => exact .tooLong' hp hLong _

/-- After something has been read, the two readings may make use of what that was. -/
theorem ofLoad_bind {x : Load α} {y : Load β} {f : α → Reading γ} {g : β → Reading δ}
    (h : Load.Alike root root' R x y)
    (hNext : ∀ a b, x = .ok a → R a b → Reading.Alike root root' S (f a) (g b)) :
    Reading.Alike root root' S (Reading.ofLoad x >>= f) (Reading.ofLoad y >>= g) := by
  intro s t
  cases h with
  | ok hR => exact hNext _ _ rfl hR s t
  | error hMoved => exact .error hMoved
  | tooLong hp hLong => exact .tooLong hp hLong _
  | tooLong' hp hLong => exact .tooLong' hp hLong _

end Reading.Alike

section

variable {d d' : Disk} {root root' : Path} {kinds : List String} {e : Xml.Element}

theorem partPath_moved {level id : String}
    (hLevel : level ∈ ["course", "chapter", "sequential", "vertical"]) (hId : IsConfined id) :
    Path.Moved root root' (partPath root level id) (partPath root' level id) := by
  have hPlain : Path.ofString level = ⟨.relative, [level]⟩ ∧ level ≠ ".." := by
    revert level
    decide
  exact componentPath_moved hPlain.1 hPlain.2 hId (by decide)

section

variable {α β : Type} {level : String} {make : String → String → List β → α}
  {inside inside' : Xml.Element → Reading (List β)}

/-- One part is the same in both places, or fails in the same way. -/
theorem readPart_alike (h : d.SameAt root d' root') {id : String}
    (hPath : Path.Moved root root' (partPath root level id) (partPath root' level id))
    (hInside : ∀ part, readXml d (partPath root level id) = .ok part →
      Reading.Alike root root' Eq (inside part) (inside' part)) :
    Reading.Alike root root' Eq (readPart d root level make inside id)
      (readPart d' root' level make inside' id) := by
  unfold readPart
  refine .ofLoad_bind (ask_alike h hPath fun _ => true) ?_
  rintro has _ - rfl
  cases has with
  | false => exact fun _ _ => .ok rfl
  | true =>
    refine .ofLoad_bind (readXml_alike h hPath) ?_
    rintro part _ hRead rfl
    refine (hInside part hRead).bind ?_
    rintro bs _ rfl
    exact .pure rfl

theorem readParts_alike (h : d.SameAt root d' root')
    (hLevel : level ∈ ["course", "chapter", "sequential", "vertical"]) {P : Xml.Element → Prop}
    (hParts : PartsConfined d root level P e)
    (hInside : ∀ part, P part → Reading.Alike root root' Eq (inside part) (inside' part)) :
    Reading.Alike root root' Eq (readParts d root level make inside (partIds e level))
      (readParts d' root' level make inside' (partIds e level)) := by
  unfold PartsConfined at hParts
  generalize partIds e level = ids at hParts
  induction ids with
  | nil => exact .pure rfl
  | cons id r ih =>
    rw [List.forall_mem_cons] at hParts
    obtain ⟨⟨hConfined, hPart⟩, hRest⟩ := hParts
    rw [readParts_cons, readParts_cons]
    refine (readPart_alike h (partPath_moved hLevel hConfined) fun part hRead =>
      hInside part (hPart part hRead)).bind ?_
    rintro part _ rfl
    refine (ih hRest).bind ?_
    rintro rest _ rfl
    exact .pure rfl

end

theorem readVerticals_alike (h : d.SameAt root d' root') (hParts : SequentialConfined d root kinds e) :
    Reading.Alike root root' Eq (readVerticals d root kinds e) (readVerticals d' root' kinds e) :=
  readParts_alike h (by decide) hParts fun _ _ => .pure rfl

theorem readSequentials_alike (h : d.SameAt root d' root') (hParts : ChapterConfined d root kinds e) :
    Reading.Alike root root' Eq (readSequentials d root kinds e) (readSequentials d' root' kinds e) :=
  readParts_alike h (by decide) hParts fun _ hPart => readVerticals_alike h hPart

theorem readChapters_alike (h : d.SameAt root d' root')
    (hParts : PartsConfined d root "chapter" (ChapterConfined d root kinds) e) :
    Reading.Alike root root' Eq (readChapters d root kinds e) (readChapters d' root' kinds e) :=
  readParts_alike h (by decide) hParts fun _ hPart => readSequentials_alike h hPart

theorem describingElement_alike (h : d.SameAt root d' root')
    (hName : ∀ id, e.filled? "url_name" = some id → IsConfined id) :
    Load.Alike root root' Eq (describingElement d root e) (describingElement d' root' e) := by
  unfold describingElement
  cases hId : e.filled? "url_name" with
  | none => exact .ok rfl
  | some id =>
    have hPath : Path.Moved root root' (partPath root "course" id) (partPath root' "course" id) :=
      partPath_moved (by decide) (hName id hId)
    refine (ask_alike h hPath fun _ => true).bind ?_
    rintro has _ - - rfl
    cases has with
    | false => exact .ok rfl
    | true => exact readXml_alike h hPath

theorem coursePath_moved (root root' : Path) :
    Path.Moved root root' (coursePath root) (coursePath root') :=
  ⟨["course.xml"], List.cons_ne_nil _ _, by simp [staysIn], rfl, rfl⟩

/-- The outline is the same in both places, but for the directory that it was read from; or it fails
in the same way. -/
theorem readOutline_alike (h : d.SameAt root d' root') (hCourse : CourseConfined d root kinds) :
    Reading.Alike root root' (fun o o' => o' = { o with root := some root' })
      (readOutline d root kinds) (readOutline d' root' kinds) := by
  have hPath := coursePath_moved root root'
  unfold readOutline
  refine .ofLoad_bind (ask_alike h hPath fun _ => true) ?_
  rintro has _ - rfl
  cases has with
  | false => exact fun _ _ => .error (.noCourse hPath)
  | true =>
    refine .ofLoad_bind (readXml_alike h hPath) ?_
    rintro top _ hTop rfl
    refine .ofLoad_bind (describingElement_alike h (hCourse.name top hTop)) ?_
    rintro full _ hFull rfl
    refine (readChapters_alike h (hCourse.parts top full hTop hFull)).bind ?_
    rintro chapters _ rfl
    exact fun _ _ => .ok rfl

end

end Coursebook.Course
