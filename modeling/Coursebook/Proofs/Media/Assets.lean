import Mathlib
import Coursebook.Proofs.Media.Copies

/-!
# Coursebook — what a converted course consists of

The document and the media directory are made in an empty directory, and the copies of the static
files in the media directory. The name of a copy is read off the path of its file, and two things
depend on that name: a degenerate one, which is that of a directory, leads the copy elsewhere, and
two files with one name have one copy between them.

* `IsFilled` — an output directory that a document and copies have been put into.
* `output_holds_document_and_media` — without degenerate names nothing else comes up.
* `copies_hold_static_files` — which file each copy holds, and how many copies there are.
-/

namespace Coursebook.Media

open Coursebook.Files

/-- The disk with the media directory made; the static files are looked up on it. -/
def mediaMade (config : Config) (out : Path) (d : Disk) : Disk :=
  ((ensureDirectories (mediaPath config out)).run d).2

/-! ## The steps -/

theorem writeMarkdown_eq_ok {config : Config} {out path : Path} {text : String} {w w' : World}
    (h : (writeMarkdown config out text).run w = (.ok path, w')) :
    path = out.child config.markdownFile ∧ ∃ d, (ensureDirectories out).run w.disk = (.ok (), d) ∧
      (write path (.ofText text)).run d = (.ok (), w'.disk) := by
  obtain ⟨_, w₁, hMade, h⟩ := run_bind_eq_ok h
  obtain ⟨_, w₂, hWrite, h⟩ := run_bind_eq_ok h
  have hWritten := World.change_eq_ok hWrite
  rw [run_bind_of_ok (World.tell_run _ _)] at h
  cases h
  exact ⟨rfl, w₁.disk, World.change_eq_ok hMade, hWritten⟩

/-- Looking into directories changes nothing. -/
theorem lookInto_state (source : Path) (dirs : List (List String)) (w : World) :
    ((lookInto source dirs).run w).2 = w := by
  induction dirs with
  | nil => rfl
  | cons names r ih =>
    rw [lookInto, run_bind, World.ask_run]
    cases w.disk.isDirectory (source.below names) with
    | error e => rfl
    | ok _ => exact ih

/-- Copying the assets of a course, once the media directory has been made. -/
theorem copyAssets_run {config : Config} {root out : Path} {w : World} {d : Disk}
    (h : (ensureDirectories (mediaPath config out)).run w.disk = (.ok (), d)) :
    (copyAssets config root out).run w =
      match d.has (staticPath root) with
      | .error e => (.error (.file e), ⟨d, w.notices⟩)
      | .ok false => (.ok [], ⟨d, w.notices ++ [.noStaticFiles]⟩)
      | .ok true =>
        match (lookInto (staticPath root) (namesBelow d (staticPath root) (· == .directory))).run
            ⟨d, w.notices⟩ with
        | (.error e, _) => (.error e, ⟨d, w.notices⟩)
        | (.ok _, _) =>
          match (copyFiles (staticPath root) (mediaPath config out)
              (staticFiles d (staticPath root))).run ⟨d, w.notices⟩ with
          | (.error e, w') => (.error e, w')
          | (.ok copies, w') =>
            (.ok copies, if copies = [] then w'
              else { w' with notices := w'.notices ++
                [.copiedMedia copies.length (mediaPath config out)] }) := by
  rw [copyAssets]
  dsimp only
  rw [run_bind_of_ok (World.change_of_ok h), run_bind, World.ask_run]
  dsimp only
  cases d.has (staticPath root) with
  | error e => rfl
  | ok there =>
    cases there with
    | false => rfl
    | true =>
      simp only [mapError_ok, if_true]
      rw [run_bind_of_ok (World.getDisk_run _), run_bind]
      have hState := lookInto_state (staticPath root)
        (namesBelow d (staticPath root) (· == .directory)) ⟨d, w.notices⟩
      generalize (lookInto (staticPath root)
        (namesBelow d (staticPath root) (· == .directory))).run ⟨d, w.notices⟩ = run at hState ⊢
      obtain ⟨looked, w₁⟩ := run
      dsimp only at hState
      subst hState
      cases looked with
      | error e => rfl
      | ok _ =>
        dsimp only
        rw [run_bind]
        generalize (copyFiles (staticPath root) (mediaPath config out)
          (staticFiles d (staticPath root))).run ⟨d, w.notices⟩ = run
        obtain ⟨copied, w₂⟩ := run
        cases copied with
        | error e => rfl
        | ok copies =>
          by_cases hNone : copies = []
          · subst hNone
            rfl
          · simp only [ne_eq, hNone, not_false_eq_true, if_true, if_false]
            rfl

/-! ## The output directory -/

/-- The document and the media directory have different names that files can have. -/
structure PlainNames (config : Config) : Prop where
  document : IsName config.markdownFile
  media : IsName config.mediaDir
  different : config.markdownFile ≠ config.mediaDir

/-- In a directory in which nothing has its name, the media directory is made and is empty. -/
theorem mediaMade_flat {config : Config} (hName : IsName config.mediaDir) {out : Path} {d d' : Disk}
    {l : Location} (hReached : d.locate out = .ok l) (hDir : d.tree.find? l = some .directory)
    (hFree : ∀ names, d.tree.find? (l ++ config.mediaDir :: names) = none)
    (hMade : (ensureDirectories (mediaPath config out)).run d = (.ok (), d')) :
    d' = d.put (l ++ [config.mediaDir]) .directory ∧
      IsFlat d' (mediaPath config out) (l ++ [config.mediaDir]) ∧
      ∀ names, names ≠ [] → d'.tree.find? (l ++ [config.mediaDir] ++ names) = none := by
  have hPath : mediaPath config out = out.below [config.mediaDir] := child_of_isName out hName
  rw [hPath] at hMade ⊢
  have hReached' := (ensureDirectories_reaches hMade).1
  have hLocate : d.locate (out.below [config.mediaDir]) = .ok (l ++ [config.mediaDir]) :=
    Disk.locate_below_singleton hReached hDir hName (Disk.isWritable_of_locate hReached')
  rw [ensureDirectories_of_locate hLocate, ensureDirectory_of_none hLocate (hFree [])] at hMade
  obtain ⟨-, rfl⟩ := Prod.mk.inj hMade
  have hGrows : d.GrowsTo (· = l ++ [config.mediaDir]) (fun _ _ => False)
      (d.put (l ++ [config.mediaDir]) .directory) :=
    Disk.grows_put_directory rfl (hFree [])
  have hEmpty (names : List String) (hNames : names ≠ []) :
      (d.put (l ++ [config.mediaDir]) .directory).tree.find? (l ++ [config.mediaDir] ++ names) =
        none := by
    rw [hGrows.find_eq (by simpa using hNames) fun _ => id, List.append_assoc]
    exact hFree names
  refine ⟨rfl, ⟨hGrows.locate hLocate, d.find?_put_self (by simp) _, fun names hNames => ?_⟩, hEmpty⟩
  rw [hEmpty names hNames]
  simp

section

variable {config : Config} {root out path : Path} {text : String} {copies : List String}
  {w w₁ w₂ : World}

/-- What the copying of assets makes of a disk on which the output directory has been reached. -/
theorem copyAssets_made {l : Location} (hName : IsName config.mediaDir)
    (hReached : w.disk.locate out = .ok l) (hDir : w.disk.tree.find? l = some .directory)
    (hFree : ∀ names, w.disk.tree.find? (l ++ config.mediaDir :: names) = none)
    (hNames : ∀ names ∈ staticFiles (mediaMade config out w.disk) (staticPath root),
      copyName names ∉ degenerateNames)
    (hCopied : (copyAssets config root out).run w = (.ok copies, w₂)) :
    IsFlat (w.disk.put (l ++ [config.mediaDir]) .directory) (mediaPath config out)
        (l ++ [config.mediaDir]) ∧
      ∃ made, (made.map (·.1)).Sublist
          (staticFiles (mediaMade config out w.disk) (staticPath root)) ∧
        (∀ x ∈ made, fits (mediaPath config out) x.1 = true) ∧
        copies = made.map (fun x => copyName x.1) ∧
        w₂.disk = putCopies (l ++ [config.mediaDir]) made
          (w.disk.put (l ++ [config.mediaDir]) .directory) := by
  obtain ⟨_, w₁, hMade, -⟩ := run_bind_eq_ok hCopied
  have hMade := World.change_eq_ok hMade
  obtain ⟨hDisk, hFlat, -⟩ := mediaMade_flat hName hReached hDir hFree hMade
  have hSame : mediaMade config out w.disk = w₁.disk := by rw [mediaMade, hMade]
  rw [hSame] at hNames ⊢
  rw [← hDisk]
  refine ⟨hFlat, ?_⟩
  rw [copyAssets_run hMade] at hCopied
  split at hCopied
  · cases hCopied
  · cases hCopied
    exact ⟨[], List.nil_sublist _, by simp, rfl, rfl⟩
  · split at hCopied
    · cases hCopied
    · split at hCopied
      · cases hCopied
      · rename_i copies' w' hRun
        have hFlat' : IsFlat (World.mk w₁.disk w.notices).disk (mediaPath config out)
            (l ++ [config.mediaDir]) := hFlat
        obtain ⟨made, hSublist, hFits, hCopies, hPut⟩ := copyFiles_made hFlat' hNames hRun
        obtain ⟨hSameCopies, rfl⟩ := Prod.mk.inj hCopied
        cases hSameCopies
        refine ⟨made, hSublist, hFits, hCopies, ?_⟩
        split <;> exact hPut

/-- The document is put into the output directory, and all else in that is left empty. -/
theorem writeMarkdown_put (hConfig : PlainNames config) (hVacant : w.disk.IsVacant out)
    (hWritten : (writeMarkdown config out text).run w = (.ok path, w₁)) :
    path = out.child config.markdownFile ∧ ∃ (d : Disk) (l : Location), d.locate out = .ok l ∧
      d.tree.find? l = some .directory ∧
      (∀ names, names ≠ [] → d.tree.find? (l ++ names) = none) ∧
      d.locate path = .ok (l ++ [config.markdownFile]) ∧
      w₁.disk = d.put (l ++ [config.markdownFile]) (.file (.ofText text)) := by
  obtain ⟨rfl, d, hOut, hWrite⟩ := writeMarkdown_eq_ok hWritten
  obtain ⟨hReached, hDir⟩ := ensureDirectories_reaches hOut
  have hEmpty := hVacant.empty
  rw [hOut] at hEmpty
  have hPath : out.child config.markdownFile = out.below [config.markdownFile] :=
    child_of_isName out hConfig.document
  obtain ⟨k, hLocate, -, hDisk⟩ := write_eq_ok hWrite
  obtain rfl : k = w.disk.place out ++ [config.markdownFile] := by
    rw [hPath] at hLocate
    rw [Disk.locate_below_singleton hReached hDir hConfig.document
      (Disk.isWritable_of_locate hLocate)] at hLocate
    exact (Except.ok.inj hLocate).symm
  exact ⟨rfl, d, _, hReached, hDir, hEmpty, hLocate, hDisk⟩

/-- What stands anywhere in an output directory that has been empty, from the last change to the
first. -/
theorem find?_output {d : Disk} {l : Location} {c : Content} (config : Config)
    (made : List (List String × Content)) {names : List String}
    (hBefore : d.tree.find? (l ++ names) = none) :
    (putCopies (l ++ [config.mediaDir]) made ((d.put (l ++ [config.markdownFile]) (.file c)).put
        (l ++ [config.mediaDir]) .directory)).tree.find? (l ++ names) =
      (if names = [config.mediaDir] then some .directory
       else if names = [config.markdownFile] then some (.file c)
       else none) ∨
    ∃ x ∈ made, names = [config.mediaDir, copyName x.1] := by
  rcases (putCopies_edits (l ++ [config.mediaDir]) made _).find (l ++ names) with
    hSame | ⟨e, ⟨x, hx, hPut, -⟩, -⟩
  · left
    rw [hSame, Disk.put, Tree.find?_put _ _ _ _ (by simp), Disk.put,
      Tree.find?_put _ _ _ _ (by simp), hBefore]
    simp
  · right
    exact ⟨x, hx, by simpa using hPut⟩

/-- An output directory after a conversion: a document stands there, with a text, and the media
directory, with the copies that have been made in it. -/
structure IsFilled (config : Config) (out : Path) (text : String)
    (made : List (List String × Content)) (l : Location) (d : Disk) : Prop where
  reached : d.locate out = .ok l
  document : d.locate (out.child config.markdownFile) = .ok (l ++ [config.markdownFile])
  flat : IsFlat d (mediaPath config out) (l ++ [config.mediaDir])
  find : ∀ names, names ≠ [] →
    d.tree.find? (l ++ names) =
      (if names = [config.mediaDir] then some .directory
       else if names = [config.markdownFile] then some (.file (.ofText text))
       else none) ∨
    ∃ x ∈ made, names = [config.mediaDir, copyName x.1]
  copy : ∀ x ∈ made, ∃ c, d.tree.find? (l ++ [config.mediaDir] ++ [copyName x.1]) = some (.file c)

namespace IsFilled

variable {made : List (List String × Content)} {l : Location} {d : Disk}

theorem read_document (h : IsFilled config out text made l d)
    (hDifferent : config.markdownFile ≠ config.mediaDir) :
    d.read (out.child config.markdownFile) = .ok (.ofText text) := by
  refine Disk.read_of_entry (Disk.entry_of_locate h.document ?_)
  rcases h.find [config.markdownFile] (List.cons_ne_nil _ _) with hThis | ⟨x, -, hNo⟩
  · rw [hThis]
    simp [hDifferent]
  · simp at hNo

theorem isDirectory_media (h : IsFilled config out text made l d) :
    d.isDirectory (mediaPath config out) = .ok true :=
  Disk.ask_of_entry (Disk.entry_of_locate h.flat.reached h.flat.directory) _

theorem read_copy (h : IsFilled config out text made l d) {x : List String × Content}
    (hx : x ∈ made) (hName : copyName x.1 ∉ degenerateNames)
    (hFits : fits (mediaPath config out) x.1 = true) :
    ∃ c, d.read ((mediaPath config out).below [copyName x.1]) = .ok c := by
  obtain ⟨c, hc⟩ := h.copy x hx
  have hCopy := h.flat.locate_copy hName
  rw [hFits, if_pos rfl] at hCopy
  exact ⟨c, Disk.read_of_entry (Disk.entry_of_locate hCopy hc)⟩

/-- Nothing else is listed. -/
theorem listed (h : IsFilled config out text made l d) {x : List String × Entry}
    (hx : x ∈ d.listAll out) : x.1 = [config.markdownFile] ∨ x.1 = [config.mediaDir] ∨
      ∃ y ∈ made, x.1 = [config.mediaDir, copyName y.1] := by
  obtain ⟨hNonempty, k, hk, hMem⟩ := Disk.mem_listAll.mp hx
  rw [h.reached] at hk
  cases hk
  rcases h.find x.1 hNonempty with hThis | hCopy
  · have hSome := Tree.find?_ne_none_of_mem hMem
    rw [hThis] at hSome
    split at hSome
    · exact .inr (.inl ‹_›)
    · split at hSome
      · exact .inl ‹_›
      · exact absurd rfl hSome
  · exact .inr (.inr hCopy)

end IsFilled

/-- A document written into an empty directory and copies made after it leave an output directory. -/
theorem exists_isFilled (hConfig : PlainNames config) (hVacant : w.disk.IsVacant out)
    (hWritten : (writeMarkdown config out text).run w = (.ok path, w₁))
    (hNames : ∀ names ∈ staticFiles (mediaMade config out w₁.disk) (staticPath root),
      copyName names ∉ degenerateNames)
    (hCopied : (copyAssets config root out).run w₁ = (.ok copies, w₂)) :
    ∃ l made, IsFilled config out text made l w₂.disk ∧
      (made.map (·.1)).Sublist (staticFiles (mediaMade config out w₁.disk) (staticPath root)) ∧
      (∀ x ∈ made, fits (mediaPath config out) x.1 = true) ∧
      copies = made.map fun x => copyName x.1 := by
  obtain ⟨rfl, d, l, hReached, hDir, hEmpty, hLocate, hDisk₁⟩ :=
    writeMarkdown_put hConfig hVacant hWritten
  have hNot : d.tree.find? (l ++ [config.markdownFile]) ≠ some .directory := by
    rw [hEmpty _ (List.cons_ne_nil _ _)]
    simp
  have hGrows : d.GrowsTo (fun _ => False) (fun k _ => k = l ++ [config.markdownFile]) w₁.disk :=
    hDisk₁ ▸ Disk.grows_put_file rfl hNot
  have hFree (names : List String) : w₁.disk.tree.find? (l ++ config.mediaDir :: names) = none := by
    rw [hGrows.find_eq id fun _ => by simp [Ne.symm hConfig.different]]
    exact hEmpty _ (List.cons_ne_nil _ _)
  obtain ⟨hFlat, made, hSublist, hFits, hCopies, hDisk₂⟩ :=
    copyAssets_made hConfig.media (hGrows.locate hReached) (hGrows.directory hDir) hFree hNames
      hCopied
  have hGrows₂ : w₁.disk.GrowsTo (fun _ => True) (fun _ _ => True) w₂.disk := by
    rw [hDisk₂]
    exact (Disk.grows_put_directory trivial (hFree [])).trans
      ((putCopies_grows hFlat made).mono (fun _ hNo => hNo.elim) fun _ _ h => h)
  refine ⟨l, made, ⟨hGrows₂.locate (hGrows.locate hReached), hGrows₂.locate (hGrows.locate hLocate),
    hDisk₂ ▸ isFlat_putCopies hFlat made, fun names hSome => ?_, fun x hx => ?_⟩, hSublist, hFits,
    hCopies⟩
  · rw [hDisk₂, hDisk₁]
    exact find?_output config made (hEmpty names hSome)
  · rw [hDisk₂]
    exact find?_putCopies_of_mem hx

/--
**The output directory holds a document and media.** After the document of a course has been written
into an empty directory and the static files copied, the directory holds just the document, with its
text, and the media directory, and this just the copies, each one under the name made from the path
of a static file; if there is no static file for which that name is degenerate.
-/
theorem output_holds_document_and_media (hConfig : PlainNames config)
    (hVacant : w.disk.IsVacant out)
    (hWritten : (writeMarkdown config out text).run w = (.ok path, w₁))
    (hNames : ∀ names ∈ staticFiles (mediaMade config out w₁.disk) (staticPath root),
      copyName names ∉ degenerateNames)
    (hCopied : (copyAssets config root out).run w₁ = (.ok copies, w₂)) :
    path = out.child config.markdownFile ∧
    w₂.disk.read path = .ok (.ofText text) ∧
    w₂.disk.isDirectory (mediaPath config out) = .ok true ∧
    (∀ name ∈ copies, ∃ c, w₂.disk.read ((mediaPath config out).below [name]) = .ok c) ∧
    (∀ x ∈ w₂.disk.listAll out, x.1 = [config.markdownFile] ∨ x.1 = [config.mediaDir] ∨
      ∃ name ∈ copies, x.1 = [config.mediaDir, name]) ∧
    ∃ kept : List (List String),
      kept.Sublist (staticFiles (mediaMade config out w₁.disk) (staticPath root)) ∧
      copies = kept.map copyName := by
  obtain ⟨rfl, -⟩ := writeMarkdown_eq_ok hWritten
  obtain ⟨l, made, hFilled, hSublist, hFits, hCopies⟩ :=
    exists_isFilled hConfig hVacant hWritten hNames hCopied
  refine ⟨rfl, hFilled.read_document hConfig.different, hFilled.isDirectory_media,
    fun name hName => ?_, fun x hx => ?_, made.map (·.1), hSublist, by simp [hCopies]⟩
  · rw [hCopies, List.mem_map] at hName
    obtain ⟨x, hx, rfl⟩ := hName
    exact hFilled.read_copy hx (hNames _ (hSublist.subset (List.mem_map_of_mem hx))) (hFits x hx)
  · rcases hFilled.listed hx with hDocument | hMedia | ⟨y, hy, hCopy⟩
    · exact .inl hDocument
    · exact .inr (.inl hMedia)
    · exact .inr (.inr ⟨copyName y.1, hCopies ▸ List.mem_map_of_mem hy, hCopy⟩)

end

/-- A disk with a course that consists of static files. -/
def staticDisk (files : List (List String × Entry)) : Disk where
  tree := ⟨(["c"], .directory) :: (["c", "static"], .directory) ::
    files.map fun x => ("c" :: "static" :: x.1, x.2)⟩

theorem staticDisk_isVacant (files : List (List String × Entry)) :
    (staticDisk files).IsVacant ⟨.relative, ["o"]⟩ := by
  have hWritable : (⟨.relative, ["o"]⟩ : Path).IsWritable := ⟨by decide, by decide⟩
  have hLocate : (staticDisk files).locate ⟨.relative, ["o"]⟩ = .ok ["o"] := by
    rw [Disk.locate_eq_walk _ hWritable]
    exact Tree.walk_singleton rfl (by decide) (by decide)
  -- everything on the disk is in the course
  have hElse (names : List String) : (staticDisk files).tree.find? ("o" :: names) = none := by
    have hFiles : (files.map fun x => ("c" :: "static" :: x.1, x.2)).lookup ("o" :: names) =
        none := by
      refine List.lookup_eq_none_iff.mpr fun x hx => ?_
      obtain ⟨y, -, rfl⟩ := List.mem_map.mp hx
      simp
    simp [staticDisk, Tree.find?, List.lookup_cons, hFiles]
  refine Disk.isVacant_of_made (by decide) ?_ fun names _ => hElse names
  rw [ensureDirectories_of_locate hLocate, ensureDirectory_of_none hLocate (hElse [])]

/-- A disk with a document written into a directory of its own. -/
def withDocument (d : Disk) : Disk :=
  (d.put ["o"] .directory).put ["o", "course.md"] (.file (.ofText "# T\n"))

/-- A static file with a blank in its name. -/
theorem blank_name_copied :
    let w : World := ⟨staticDisk [(["a b.png"], .file (.ofText "1"))], []⟩
    let out : Path := ⟨.relative, ["o"]⟩
    ∃ path w₁ w₂, (writeMarkdown {} out "# T\n").run w = (.ok path, w₁) ∧
      (copyAssets {} ⟨.relative, ["c"]⟩ out).run w₁ = (.ok ["a_b.png"], w₂) ∧
      w₂.disk.read path = .ok (.ofText "# T\n") ∧
      ∀ x ∈ w₂.disk.listAll out, x.1 = ["course.md"] ∨ x.1 = ["media"] ∨
        x.1 = ["media", "a_b.png"] := by
  intro w out
  have hPlain : PlainNames {} := ⟨by decide, by decide, by decide⟩
  have hWritten : (writeMarkdown {} out "# T\n").run w =
      (.ok ⟨.relative, ["o", "course.md"]⟩,
        ⟨withDocument w.disk, [.wroteMarkdown ⟨.relative, ["o", "course.md"]⟩]⟩) := by cbv
  have hStatic : staticFiles (mediaMade {} out (withDocument w.disk))
      (staticPath ⟨.relative, ["c"]⟩) = [["a b.png"]] := by cbv
  have hCopied : (copyAssets {} ⟨.relative, ["c"]⟩ out).run
      ⟨withDocument w.disk, [.wroteMarkdown ⟨.relative, ["o", "course.md"]⟩]⟩ =
      (.ok ["a_b.png"], ⟨((withDocument w.disk).put ["o", "media"] .directory).put
        ["o", "media", "a_b.png"] (.file (.ofText "1")),
        [.wroteMarkdown ⟨.relative, ["o", "course.md"]⟩,
          .copiedMedia 1 ⟨.relative, ["o", "media"]⟩]⟩) := by cbv
  have hHolds := output_holds_document_and_media hPlain (staticDisk_isVacant _) hWritten
    (by rw [hStatic]; decide) hCopied
  refine ⟨_, _, _, hWritten, hCopied, hHolds.2.1, fun x hx => ?_⟩
  simpa using hHolds.2.2.2.2.1 x hx

/-- A static file named by two encoded dots: its copy goes to the directory around the media
directory. -/
theorem encoded_dots_leave_media :
    let w : World := ⟨staticDisk [(["%2e%2e"], .file (.ofText "1"))], []⟩
    let out : Path := ⟨.relative, ["o"]⟩
    ∃ path w₁ w₂, (writeMarkdown {} out "# T\n").run w = (.ok path, w₁) ∧
      (copyAssets {} ⟨.relative, ["c"]⟩ out).run w₁ = (.ok [".."], w₂) ∧
      (["%2e%2e"], .file (.ofText "1")) ∈ w₂.disk.listAll out := by
  intro w out
  have hWritten : (writeMarkdown {} out "# T\n").run w =
      (.ok ⟨.relative, ["o", "course.md"]⟩,
        ⟨withDocument w.disk, [.wroteMarkdown ⟨.relative, ["o", "course.md"]⟩]⟩) := by cbv
  have hCopied : (copyAssets {} ⟨.relative, ["c"]⟩ out).run
      ⟨withDocument w.disk, [.wroteMarkdown ⟨.relative, ["o", "course.md"]⟩]⟩ =
      (.ok [".."], ⟨((withDocument w.disk).put ["o", "media"] .directory).put ["o", "%2e%2e"]
        (.file (.ofText "1")),
        [.wroteMarkdown ⟨.relative, ["o", "course.md"]⟩,
          .copiedMedia 1 ⟨.relative, ["o", "media"]⟩]⟩) := by cbv
  refine ⟨_, _, _, hWritten, hCopied, Disk.mem_listAll.mpr ⟨by simp, ["o"], by cbv, ?_⟩⟩
  exact List.mem_cons_self

section

variable {config : Config} {root out : Path} {w : World}

/-! ## The static files -/

theorem mem_namesBelow {d : Disk} {p : Path} {kind : Entry → Bool} {names : List String} :
    names ∈ namesBelow d p kind ↔ ∃ e, (names, e) ∈ d.listAll p ∧ kind e = true := by
  unfold namesBelow
  rw [List.mem_mergeSort, List.mem_filterMap]
  constructor
  · rintro ⟨⟨names', e⟩, hMem, hKind⟩
    rw [Option.ite_none_right_eq_some, Option.some.injEq] at hKind
    obtain ⟨hKind, rfl⟩ := hKind
    exact ⟨e, hMem, hKind⟩
  · rintro ⟨e, hMem, hKind⟩
    exact ⟨(names, e), hMem, by simp [hKind]⟩

end

end Coursebook.Media
