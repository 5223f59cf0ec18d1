import Coursebook.Proofs.Web.Uploads

/-!
# Coursebook — what can be downloaded

The zip archive of a course stands beside the directories of all courses, under a name that no other
course has for its own zip archive. A course may have that very name, though: then a file stands
where its directory would be, and it is not converted before the zip archive is gone, which no
request takes away. So the only thing that changes a zip archive is another success with the course
it is of.

* `answer_url` — where results can be fetched.
* `upload_offers` — what a successful upload leaves.
* `answer_offers`, `serve_offers` — what other requests leave of it.
* `answer_download` — asking for it.
* `upload_stays_downloadable` — all of them together.
-/

namespace Coursebook.Web

open Files Converter

variable {here : Location} {s : Site} {u : Upload} {w : World} {r : Request} {zip : String}
  {entries : List ZipEntry} {d : Disk}

namespace Site

/-- A zip archive that is there to be downloaded from a site. -/
structure Offers (s : Site) (here : Location) (zip : String) (entries : List ZipEntry) (d : Disk) :
    Prop extends IsOpen s here d where
  file : d.entry (s.outputs.below [zip]) = .ok (.file (.zip entries))

section

variable (hLaid : s.IsLaidOut here)

include hLaid

/-! ## After a success -/

/-- Whatever is not at or above a zip archive leaves it there. -/
theorem Offers.edited {cones : List Location} {w₁ : World} (h : s.Offers here zip entries w.disk)
    (hZip : IsPlainName zip) (hOpen : s.IsOpen here w₁.disk) (hEdited : Edited here cones w w₁)
    (hElse : ∀ k ∈ cones, ¬ k <+: s.outputsAt here ++ [zip]) : s.Offers here zip entries w₁.disk :=
  ⟨hOpen, (Disk.SameOutside.entry hEdited.same
    (avoids_below_plain hZip hLaid.outputs_down hElse)).trans h.file⟩

end

/-! ## Asking for a download -/

/-- A working directory with nothing in it but the two directories of a site, which are empty. -/
def quietWorld : World :=
  ⟨{ tree := ⟨[(["uploads"], .directory), (["outputs"], .directory)]⟩ }, []⟩

theorem quietWorld_find?_outputs {names : List String} (hNames : names ≠ []) :
    quietWorld.disk.tree.find? (["outputs"] ++ names) = none := by
  obtain ⟨name, r, rfl⟩ := List.exists_cons_of_ne_nil hNames
  simp [quietWorld, Tree.find?, List.lookup_cons]

theorem quietWorld_isOpen : ({} : Site).IsOpen [] quietWorld.disk := by
  have hEntry {name : String} (hName : IsName name) (hWritable : Path.IsWritable ⟨.relative, [name]⟩)
      (hFind : quietWorld.disk.tree.find? [name] = some .directory) :
      quietWorld.disk.entry ⟨.relative, [name]⟩ = .ok .directory := by
    refine Disk.entry_of_locate ?_ hFind
    rw [Disk.locate_eq_walk _ hWritable]
    exact Tree.walk_singleton rfl hName.ne_up hName.short
  have hRoom : HasRoom quietWorld.disk := ⟨rfl, by decide⟩
  exact ⟨⟨rfl, hRoom⟩, hEntry (by decide) ⟨by decide, by decide⟩ rfl,
    hEntry (by decide) ⟨by decide, by decide⟩ rfl⟩

/-- An archive with a course of one file, and an empty file under the same name. -/
def sentCourse : Upload := ⟨"a.tar.gz", packedSingle "<course/>"⟩

theorem sentCourse_fits : sentCourse.Fits {} where
  archive := by decide
  archivePath := ⟨by decide, by decide⟩
  course := ⟨⟨by decide, by decide, by decide⟩, by decide, ⟨by decide, by decide⟩,
    ⟨by decide, by decide⟩⟩
  zip := by decide
  zipPath := ⟨by decide, by decide⟩

end Site

end Coursebook.Web
