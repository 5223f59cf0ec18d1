import Coursebook.Conversion.Step
import Coursebook.Proofs.Run

/-!
# Coursebook — running the steps of a conversion

The equations of `Proofs.Run` for the steps that a conversion is made of.
-/

namespace Coursebook

open Files

theorem World.getDisk_run (w : World) : World.getDisk.run w = (.ok w.disk, w) := rfl

theorem World.tell_run (n : Notice) (w : World) :
    (World.tell n).run w = (.ok ⟨⟩, { w with notices := w.notices ++ [n] }) := rfl

theorem World.reading_run {α : Type} (x : Reading α) (w : World) :
    (World.reading x).run w =
      ((x.run w.notices).1, { w with notices := (x.run w.notices).2 }) := rfl

theorem World.reading_eq_ok {α : Type} {x : Reading α} {w w' : World} {a : α}
    (h : (World.reading x).run w = (.ok a, w')) : x.run w.notices = (.ok a, w'.notices) := by
  obtain ⟨hOutcome, hWorld⟩ := Prod.mk.inj ((World.reading_run x w).symm.trans h)
  exact Prod.ext hOutcome (congrArg World.notices hWorld)

theorem World.ask_run {α : Type} (question : Disk → Except FileError α) (w : World) :
    (World.ask question).run w = ((question w.disk).mapError .file, w) := rfl

theorem World.tryCopy_run (source target : Path) (w : World) :
    (World.tryCopy source target).run w =
      (.ok ((copy source target).run w.disk).1,
        { w with disk := ((copy source target).run w.disk).2 }) := rfl

theorem World.change_run {α : Type} (x : Change α) (w : World) :
    (World.change x).run w =
      ((x.run w.disk).1.mapError .file, { w with disk := (x.run w.disk).2 }) := rfl

theorem World.change_of_ok {α : Type} {x : Change α} {w : World} {d : Disk} {a : α}
    (h : x.run w.disk = (.ok a, d)) : (World.change x).run w = (.ok a, ⟨d, w.notices⟩) := by
  rw [World.change_run, h]
  rfl

theorem World.change_eq_ok {α : Type} {x : Change α} {w w' : World} {a : α}
    (h : (World.change x).run w = (.ok a, w')) : x.run w.disk = (.ok a, w'.disk) := by
  rw [World.change_run] at h
  cases hRun : x.run w.disk with
  | mk outcome d =>
    rw [hRun] at h
    cases outcome with
    | error e => cases h
    | ok b =>
      cases h
      rfl

end Coursebook
