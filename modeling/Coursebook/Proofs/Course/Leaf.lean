import Coursebook.Course.Document
import Coursebook.Proofs.Course.Registry
import Coursebook.Proofs.Files.Walk
import Coursebook.Proofs.Run

/-!
# Coursebook — components that cannot be written

A component has no text if a file of it is bad: it is not there, cannot be read, is not text, is not
well formed, or holds something else (`IsBroken`). Such a failure stays with the component. Two
things, though, end the document that the component is for (`Stops`): an XML file that declares an
encoding in which it cannot be read, and a page that is read but cannot be written as Markdown.

* `componentText_settles` — a component has a text, is broken, or ends its document.
-/

namespace Coursebook.Course

open Coursebook.Files

/-! ## Files -/

section

variable {d : Disk} {p : Path}

/-- An XML file that is not there, cannot be read, or is not well formed. -/
def BadXml (d : Disk) (p : Path) : Prop :=
  (∃ e, d.read p = .error e) ∨
  ∃ c fault position, d.read p = .ok c ∧
    Xml.Element.read c.bytes false = .error (.malformed fault position)

/-- An XML file that declares an encoding in which it cannot be read. -/
def OddEncoding (d : Disk) (p : Path) : Prop :=
  ∃ c e, d.read p = .ok c ∧ Xml.Element.read c.bytes false = .error e ∧
    ∀ fault position, e ≠ .malformed fault position

/-- A page that is not there, cannot be read, or is not text. -/
def BadText (d : Disk) (p : Path) : Prop :=
  (∃ e, d.read p = .error e) ∨ ∃ c e, d.read p = .ok c ∧ c.text = .error e

/-- A page that is read, but cannot be written as Markdown. -/
def OddPage (mediaDir : String) (d : Disk) (p : Path) : Prop :=
  ∃ text e, readText d p = .ok text ∧ htmlText mediaDir text = .error e

/-- What is there can be read, unless it is a directory. -/
theorem read_of_has (h : d.has p = .ok true) :
    (∃ c, d.read p = .ok c) ∨ d.read p = .error ⟨.isDirectory, p⟩ := by
  unfold Disk.has Disk.ask at h
  unfold Disk.read
  cases hEntry : d.entry p with
  | error fault => cases fault <;> simp [hEntry] at h
  | ok e =>
    cases e with
    | directory => exact .inr rfl
    | file c => exact .inl ⟨c, rfl⟩

/-- What is not there cannot be read. -/
theorem read_of_has_ne (h : d.has p ≠ .ok true) : ∃ e, d.read p = .error e := by
  unfold Disk.has Disk.ask at h
  unfold Disk.read
  cases hEntry : d.entry p with
  | error fault => exact ⟨_, rfl⟩
  | ok e => simp [hEntry] at h

/-- A question about a path can only fail since a name is too long. -/
theorem ask_error {question : Entry → Bool} {e : FileError} (h : d.ask p question = .error e) :
    e = ⟨.nameTooLong, p⟩ := by
  unfold Disk.ask at h
  cases hEntry : d.entry p with
  | error fault => cases fault <;> simp_all
  | ok e => simp [hEntry] at h

/-- A component fails by itself if a file that it needs is not there. -/
theorem needFile_cases (d : Disk) (file : ComponentFile) (p : Path) :
    (∃ e, needFile d file p = .error e ∧ e.isLeaf = true ∧ d.has p ≠ .ok true) ∨
    needFile d file p = .ok () ∧ d.has p = .ok true := by
  unfold needFile ofDisk
  cases hHas : d.has p with
  | error e =>
    left
    refine ⟨.file e, rfl, ?_, by simp⟩
    rw [ask_error hHas]
    rfl
  | ok has =>
    cases has with
    | true => exact .inr ⟨rfl, rfl⟩
    | false => exact .inl ⟨_, rfl, rfl, by simp⟩

/-- An XML file that is there holds an element, or is bad, or declares an odd encoding. -/
theorem readComponentXml_cases (h : d.has p = .ok true) (id : String) :
    (∃ e, readXml d p = .ok e ∧ readComponentXml d p id = .ok e ∧ ¬ BadXml d p ∧
      ¬ OddEncoding d p) ∨
    (∃ e, readComponentXml d p id = .error e ∧ e.isLeaf = true ∧ (∀ x, readXml d p ≠ .ok x) ∧
      BadXml d p ∧ ¬ OddEncoding d p) ∨
    ∃ e, readComponentXml d p id = .error e ∧ e.isLeaf = false ∧ (∀ x, readXml d p ≠ .ok x) ∧
      OddEncoding d p := by
  unfold readComponentXml readXml BadXml OddEncoding ofDisk
  rcases read_of_has h with ⟨c, hRead⟩ | hRead
  · rw [hRead]
    cases hXml : Xml.Element.read c.bytes false with
    | ok e => simp [hXml]
    | error e =>
      cases e with
      | malformed fault position =>
        simp [hXml, Failure.isLeaf]
      | unknownEncoding | notTextEncoding | multiOctetEncoding =>
        simp [hXml, Failure.isLeaf]
  · simp [hRead, Failure.isLeaf]

/-- A page has a text, or is bad. -/
theorem readText_cases (d : Disk) (p : Path) :
    (∃ text, readText d p = .ok text ∧ ¬ BadText d p) ∨
    ∃ e, readText d p = .error e ∧ BadText d p ∧
      (e.isLeaf = false ↔ d.read p = .error ⟨.nullCharacter, p⟩) := by
  unfold readText BadText ofDisk
  cases hRead : d.read p with
  | error e =>
    refine .inr ⟨.file e, rfl, .inl ⟨e, rfl⟩, ?_⟩
    have hPath : e.path = p := by
      unfold Disk.read at hRead
      split at hRead <;> cases hRead <;> rfl
    obtain ⟨fault, path⟩ := e
    subst hPath
    simp [Failure.isLeaf]
  | ok c =>
    cases hText : c.text with
    | ok text => exact .inl ⟨text, by simp [hText], by simp [hText]⟩
    | error e =>
      refine .inr ⟨.text e, by simp [hText], ?_, ?_⟩
      · exact .inr ⟨c, e, rfl, hText⟩
      · simp [Failure.isLeaf]

end

/-! ## Components -/

/-- An XML file that is bad, or holds another element than it should. -/
def BadElement (d : Disk) (p : Path) (name : String) : Prop :=
  BadXml d p ∨ ∃ e, readXml d p = .ok e ∧ e.name ≠ name

/-- There is no directory for the page about the course, no page in it, or a bad one. -/
def BadAbout (d : Disk) (directory : Path) : Prop :=
  d.isDirectory directory ≠ .ok true ∨ (∀ page, aboutPage? d directory ≠ .ok (some page)) ∨
  ∃ page, aboutPage? d directory = .ok (some page) ∧ BadText d page

/-- A component that has no text since a file of it is bad. -/
def IsBroken (d : Disk) (root : Path) (ref : Reference) : Prop :=
  match Text.lower ref.kind with
  | "html" =>
    BadXml d (componentPath root "html" ref.id ".xml") ∨
    BadText d (componentPath root "html" ref.id ".html")
  | "problem" => BadElement d (componentPath root "problem" ref.id ".xml") "problem"
  | "video" => BadElement d (componentPath root "video" ref.id ".xml") "video"
  | "about" => BadAbout d (root.child "about")
  | _ => False

/-- A component that ends the document it is for. The last case is that of a page about the course
with a null character in its name. -/
def Stops (mediaDir : String) (d : Disk) (root : Path) (ref : Reference) : Prop :=
  match Text.lower ref.kind with
  | "html" =>
    (OddEncoding d (componentPath root "html" ref.id ".xml") ∧
      d.has (componentPath root "html" ref.id ".html") = .ok true) ∨
    ((∃ e, readXml d (componentPath root "html" ref.id ".xml") = .ok e) ∧
      OddPage mediaDir d (componentPath root "html" ref.id ".html"))
  | "problem" => OddEncoding d (componentPath root "problem" ref.id ".xml")
  | "video" => OddEncoding d (componentPath root "video" ref.id ".xml")
  | "about" =>
    d.isDirectory (root.child "about") = .ok true ∧
    ∃ page, aboutPage? d (root.child "about") = .ok (some page) ∧
      (OddPage mediaDir d page ∨ d.read page = .error ⟨.nullCharacter, page⟩)
  | _ => False

/-- Something comes of a step; or it fails and only the component is broken; or the document ends. -/
def Settles {α : Type} (x : Load α) (broken stops : Prop) : Prop :=
  (∃ a, x = .ok a ∧ ¬ broken ∧ ¬ stops) ∨
  (∃ e, x = .error e ∧ e.isLeaf = true ∧ broken ∧ ¬ stops) ∨
  ∃ e, x = .error e ∧ e.isLeaf = false ∧ stops

/-- An XML file that is not there is bad, and declares nothing. -/
theorem badXml_of_has_ne {d : Disk} {p : Path} (h : d.has p ≠ .ok true) :
    BadXml d p ∧ ¬ OddEncoding d p ∧ ∀ x, readXml d p ≠ .ok x := by
  obtain ⟨e, he⟩ := read_of_has_ne h
  refine ⟨.inl ⟨e, he⟩, ?_, fun x hx => ?_⟩
  · rintro ⟨c, _, hc, _⟩
    rw [he] at hc
    cases hc
  · rw [readXml, ofDisk, he] at hx
    cases hx

/-- A bad page has no text. -/
theorem readText_of_bad {d : Disk} {p : Path} (h : BadText d p) (text : String) :
    readText d p ≠ .ok text := by
  intro hText
  unfold readText ofDisk at hText
  rcases h with ⟨e, he⟩ | ⟨c, e, hc, he⟩
  · rw [he] at hText
    cases hText
  · simp [hc, he] at hText

theorem Settles.congr {α : Type} {x : Load α} {broken broken' stops stops' : Prop}
    (h : Settles x broken stops) (hBroken : broken ↔ broken') (hStops : stops ↔ stops') :
    Settles x broken' stops' := by
  rwa [hBroken, hStops] at h

section

variable (config : Config) (d : Disk) (root : Path) (ref : Reference)

/-- A page that is written by itself, or as part of something else. -/
theorem page_settles {write : String → Except PageError String} (p : Path)
    (hOk : ∀ text markdown, htmlText config.mediaDir text = .ok markdown →
      ∃ all, write text = .ok all)
    (hError : ∀ text e, htmlText config.mediaDir text = .error e → write text = .error e) :
    Settles (readText d p >>= fun text => (write text).mapError .page) (BadText d p)
      (OddPage config.mediaDir d p ∨ d.read p = .error ⟨.nullCharacter, p⟩) := by
  rcases readText_cases d p with ⟨text, hText, hGood⟩ | ⟨e, hText, hBad, hNull⟩
  · cases hPage : htmlText config.mediaDir text with
    | ok markdown =>
      obtain ⟨all, hAll⟩ := hOk text markdown hPage
      refine .inl ⟨all, by simp [hText, hAll], hGood, ?_⟩
      rintro (⟨text', e, hText', hPage'⟩ | hNull)
      · rw [hText] at hText'
        cases hText'
        rw [hPage] at hPage'
        cases hPage'
      · exact hGood (.inl ⟨_, hNull⟩)
    | error e =>
      refine .inr (.inr ⟨.page e, ?_, rfl, .inl ⟨text, e, hText, hPage⟩⟩)
      simp [hText, hError text e hPage]
  · have hRun : (readText d p >>= fun text => (write text).mapError Failure.page) = .error e := by
      rw [hText]
      rfl
    -- of the failures of a file, only that of a name with a null character is not kept
    by_cases hLeaf : e.isLeaf = true
    · refine .inr (.inl ⟨e, hRun, hLeaf, hBad, ?_⟩)
      rintro (⟨text, _, hText', _⟩ | hIsNull)
      · exact readText_of_bad hBad text hText'
      · rw [hNull.mpr hIsNull] at hLeaf
        cases hLeaf
    · rw [Bool.not_eq_true] at hLeaf
      exact .inr (.inr ⟨e, hRun, hLeaf, .inr (hNull.mp hLeaf)⟩)

theorem html_settles :
    Settles (loadHtml d root ref >>= fun c => (c.render config.mediaDir).mapError .page)
      (BadXml d (componentPath root "html" ref.id ".xml") ∨
        BadText d (componentPath root "html" ref.id ".html"))
      ((OddEncoding d (componentPath root "html" ref.id ".xml") ∧
        d.has (componentPath root "html" ref.id ".html") = .ok true) ∨
      ((∃ e, readXml d (componentPath root "html" ref.id ".xml") = .ok e) ∧
        OddPage config.mediaDir d (componentPath root "html" ref.id ".html"))) := by
  generalize hMetadata : componentPath root "html" ref.id ".xml" = metadata
  generalize hBody : componentPath root "html" ref.id ".html" = body
  have hFails {e : Failure} (h : loadHtml d root ref = .error e) :
      (loadHtml d root ref >>= fun c => (c.render config.mediaDir).mapError .page) = .error e := by
    rw [h]
    rfl
  rcases needFile_cases d .htmlMetadata metadata with ⟨e, hNeed, hLeaf, hHas⟩ | ⟨hNeed, hHas⟩
  · -- without its metadata nothing else of the component is looked at
    have hLoad : loadHtml d root ref = .error e := by
      simp [loadHtml, hMetadata, hNeed]
    obtain ⟨hBad, hOdd, hRead⟩ := badXml_of_has_ne hHas
    refine .inr (.inl ⟨e, hFails hLoad, hLeaf, .inl hBad, ?_⟩)
    rintro (⟨hOdd', _⟩ | ⟨⟨x, hx⟩, _⟩)
    · exact hOdd hOdd'
    · exact hRead x hx
  rcases needFile_cases d .htmlBody body with ⟨e, hNeed', hLeaf, hHasBody⟩ | ⟨hNeed', hHasBody⟩
  · -- a page that is not there keeps the metadata from being read, whatever it declares
    have hLoad : loadHtml d root ref = .error e := by
      simp [loadHtml, hMetadata, hBody, hNeed, hNeed']
    have hBad : BadText d body := .inl (read_of_has_ne hHasBody)
    refine .inr (.inl ⟨e, hFails hLoad, hLeaf, .inr hBad, ?_⟩)
    rintro (⟨_, hHas'⟩ | ⟨_, text, _, hText, _⟩)
    · exact hHasBody hHas'
    · exact readText_of_bad hBad text hText
  rcases readComponentXml_cases hHas ref.id with ⟨x, hXml, hRead, hGood, hPlain⟩ |
    ⟨e, hRead, hLeaf, hXml, hBad, hPlain⟩ | ⟨e, hRead, hLeaf, hXml, hOdd⟩
  · -- only the page itself is left, and its name is one that the system takes
    have hLoad : loadHtml d root ref =
        (readText d body >>= fun text => .ok (.ofHtml x text ref)) := by
      simp [loadHtml, hMetadata, hBody, hNeed, hNeed', hRead]
    have hRun : (loadHtml d root ref >>= fun c => (c.render config.mediaDir).mapError .page) =
        (readText d body >>= fun text => (htmlText config.mediaDir text).mapError .page) := by
      rw [hLoad]
      cases readText d body <;> rfl
    have hNotNull : d.read body ≠ .error ⟨.nullCharacter, body⟩ := by
      rcases read_of_has hHasBody with ⟨c, hc⟩ | hDirectory
      · simp [hc]
      · simp [hDirectory]
    have hPage := page_settles config d body (fun _ markdown h => ⟨markdown, h⟩) fun _ _ h => h
    rw [hRun]
    exact hPage.congr (by simp [hGood]) (by simp [hPlain, hXml, hNotNull])
  · have hLoad : loadHtml d root ref = .error e := by
      simp [loadHtml, hMetadata, hBody, hNeed, hNeed', hRead]
    refine .inr (.inl ⟨e, hFails hLoad, hLeaf, .inl hBad, ?_⟩)
    rintro (⟨hOdd, _⟩ | ⟨⟨x, hx⟩, _⟩)
    · exact hPlain hOdd
    · exact hXml x hx
  · have hLoad : loadHtml d root ref = .error e := by
      simp [loadHtml, hMetadata, hBody, hNeed, hNeed', hRead]
    exact .inr (.inr ⟨e, hFails hLoad, hLeaf, .inl ⟨hOdd, hHasBody⟩⟩)

/-- A component that is made of the element of one XML file, and can always be written. -/
theorem element_settles {name : String} {build : Xml.Element → Except WrongRoot Component}
    (hBuild : ∀ e, e.name = name →
      ∃ c markdown, build e = .ok c ∧ c.render config.mediaDir = .ok markdown)
    (hOther : ∀ e, e.name ≠ name → ∃ w, build e = .error w) (file : ComponentFile) (p : Path)
    (id : String) :
    Settles
      ((do
        needFile d file p
        (build (← readComponentXml d p id)).mapError (.component ∘ .wrongRoot) : Load Component) >>=
          fun c => (c.render config.mediaDir).mapError .page)
      (BadElement d p name) (OddEncoding d p) := by
  rcases needFile_cases d file p with ⟨e, hNeed, hLeaf, hHas⟩ | ⟨hFile, hHas⟩
  · obtain ⟨hBad, hOdd, _⟩ := badXml_of_has_ne hHas
    exact .inr (.inl ⟨e, by simp [hNeed], hLeaf, .inl hBad, hOdd⟩)
  rcases readComponentXml_cases hHas id with ⟨x, hXml, hRead, hGood, hPlain⟩ |
    ⟨e, hRead, hLeaf, hXml, hBad, hPlain⟩ | ⟨e, hRead, hLeaf, hXml, hOdd⟩
  · -- the element can be read, so all depends on its name
    by_cases hName : x.name = name
    · obtain ⟨c, markdown, hComponent, hMarkdown⟩ := hBuild x hName
      refine .inl ⟨markdown, ?_, ?_, hPlain⟩
      · simp [hFile, hRead, hComponent, hMarkdown]
      · rintro (hBad | ⟨x', hXml', hName'⟩)
        · exact hGood hBad
        · rw [hXml] at hXml'
          cases hXml'
          exact hName' hName
    · obtain ⟨w, hWrong⟩ := hOther x hName
      refine .inr (.inl ⟨.component (.wrongRoot w), ?_, rfl, .inr ⟨x, hXml, hName⟩, hPlain⟩)
      simp [hFile, hRead, hWrong]
  · exact .inr (.inl ⟨e, by simp [hFile, hRead], hLeaf, .inl hBad, hPlain⟩)
  · exact .inr (.inr ⟨e, by simp [hFile, hRead], hLeaf, hOdd⟩)

theorem problem_settles :
    Settles (loadProblem d root ref >>= fun c => (c.render config.mediaDir).mapError .page)
      (BadElement d (componentPath root "problem" ref.id ".xml") "problem")
      (OddEncoding d (componentPath root "problem" ref.id ".xml")) := by
  refine element_settles config d (fun e hName => ?_) (fun e hName => ?_) .problem _ ref.id
  · exact ⟨_, _, if_pos hName, rfl⟩
  · exact ⟨_, if_neg hName⟩

theorem video_settles :
    Settles (loadVideo d root ref >>= fun c => (c.render config.mediaDir).mapError .page)
      (BadElement d (componentPath root "video" ref.id ".xml") "video")
      (OddEncoding d (componentPath root "video" ref.id ".xml")) := by
  refine element_settles config d (fun e hName => ?_) (fun e hName => ?_) .video _ ref.id
  · exact ⟨_, _, if_pos hName, rfl⟩
  · exact ⟨_, if_neg hName⟩

theorem aboutText_of_ok {mediaDir text markdown : String} (displayName : String)
    (h : htmlText mediaDir text = .ok markdown) :
    ∃ all, aboutText mediaDir displayName text = .ok all := by
  unfold aboutText
  rw [h]
  exact ⟨_, rfl⟩

theorem aboutText_of_error {mediaDir text : String} {e : PageError} (displayName : String)
    (h : htmlText mediaDir text = .error e) : aboutText mediaDir displayName text = .error e := by
  unfold aboutText
  rw [h]
  rfl

theorem loadAbout_eq :
    loadAbout d root ref =
      match d.isDirectory (root.child "about") with
      | .error e => .error (.file e)
      | .ok false => .error (.component (.missing .aboutDirectory (root.child "about")))
      | .ok true =>
        match aboutPage? d (root.child "about") with
        | .error e => .error e
        | .ok none => .error (.component (.missing .aboutPage (root.child "about")))
        | .ok (some page) => readText d page >>= fun text => .ok (.ofAbout text ref.displayName) := by
  unfold loadAbout ofDisk
  dsimp only
  cases d.isDirectory (root.child "about") with
  | error e => rfl
  | ok isDirectory =>
    cases isDirectory with
    | false => rfl
    | true =>
      cases aboutPage? d (root.child "about") with
      | error e => rfl
      | ok found => cases found <;> rfl

theorem aboutPage?_error {d : Disk} {directory : Path} {e : Failure}
    (h : aboutPage? d directory = .error e) : e.isLeaf = true := by
  unfold aboutPage? ofDisk at h
  cases hFile : d.isFile (directory.child "overview.html") with
  | error e' =>
    simp only [hFile, Except.error.injEq, bind_error, mapError_error] at h
    rw [← h, ask_error hFile]
    rfl
  | ok isFile => cases isFile <;> simp [hFile] at h

theorem about_settles :
    Settles (loadAbout d root ref >>= fun c => (c.render config.mediaDir).mapError .page)
      (BadAbout d (root.child "about"))
      (d.isDirectory (root.child "about") = .ok true ∧
        ∃ page, aboutPage? d (root.child "about") = .ok (some page) ∧
          (OddPage config.mediaDir d page ∨ d.read page = .error ⟨.nullCharacter, page⟩)) := by
  rw [loadAbout_eq]
  generalize root.child "about" = directory
  unfold BadAbout
  cases hIs : d.isDirectory directory with
  | error e =>
    refine .inr (.inl ⟨.file e, rfl, ?_, .inl (by simp), by simp⟩)
    rw [ask_error hIs]
    rfl
  | ok isDirectory =>
    cases isDirectory with
    | false => exact .inr (.inl ⟨_, rfl, rfl, .inl (by simp), by simp⟩)
    | true =>
      cases hPage : aboutPage? d directory with
      | error e =>
        exact .inr (.inl ⟨e, rfl, aboutPage?_error hPage, .inr (.inl (by simp)), by simp⟩)
      | ok found =>
        cases found with
        | none => exact .inr (.inl ⟨_, rfl, rfl, .inr (.inl (by simp)), by simp⟩)
        | some page =>
          -- the title can always be written, so all that may fail is the page
          have hRun : ((readText d page >>= fun text => .ok (.ofAbout text ref.displayName) :
                Load Component) >>= fun c => (c.render config.mediaDir).mapError .page) =
              (readText d page >>= fun text => (aboutText config.mediaDir
                ((filled? ref.displayName).getD aboutTitle) text).mapError .page) := by
            cases readText d page <;> rfl
          have hPage := page_settles config d page
            (fun text markdown h => aboutText_of_ok ((filled? ref.displayName).getD aboutTitle) h)
            (fun text e h => aboutText_of_error ((filled? ref.displayName).getD aboutTitle) h)
          dsimp only
          rw [hRun]
          exact hPage.congr (by simp) (by simp)

end

/--
**What comes of a component.** It has a text, and nothing is wrong with its files; or it has none
since it is broken, which is a failure of that component alone; or it ends the document.
-/
theorem componentText_settles (config : Config) (d : Disk) (root : Path) (ref : Reference) :
    Settles ((Source.mk (.standard config) d root).componentText ref) (IsBroken d root ref)
      (Stops config.mediaDir d root ref) := by
  have hText : (Source.mk (.standard config) d root).componentText ref =
      ((Registry.standard config).load d root ref >>= fun c =>
        (c.render config.mediaDir).mapError .page) := by
    unfold Source.componentText
    simp only [standard_render]
  rw [hText, standard_load]
  unfold IsBroken Stops
  generalize Text.lower ref.kind = kind
  split
  · exact html_settles config d root ref
  · exact problem_settles config d root ref
  · exact video_settles config d root ref
  · exact about_settles config d root ref
  · -- a kind that is not known is written as such, and no file is read for it
    exact .inl ⟨_, rfl, by simp, by simp⟩

end Coursebook.Course
