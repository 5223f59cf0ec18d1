import Coursebook.Course.Registry

/-!
# Coursebook — the usual registry

What loading and writing a component is for the four kinds that every course may hold.

* `standard_load`, `standard_render` — the registry that a conversion starts with.
-/

namespace Coursebook.Course

open Coursebook.Files

/-- A component is loaded as its kind says, in whatever case that is written. -/
theorem standard_load (config : Config) (d : Disk) (root : Path) (ref : Reference) :
    (Registry.standard config).load d root ref =
      match Text.lower ref.kind with
      | "html" => loadHtml d root ref
      | "problem" => loadProblem d root ref
      | "video" => loadVideo d root ref
      | "about" => loadAbout d root ref
      | _ => .ok (.unknown ref.kind ref.id) := by
  unfold Registry.load Registry.get? Registry.standard
  generalize Text.lower ref.kind = kind
  by_cases hHtml : kind = "html"
  · simp [hHtml]
  by_cases hProblem : kind = "problem"
  · simp [hProblem, List.lookup_cons]
  by_cases hVideo : kind = "video"
  · simp [hVideo, List.lookup_cons]
  by_cases hAbout : kind = "about"
  · simp [hAbout, List.lookup_cons]
  · simp [List.lookup_cons, beq_eq_false_iff_ne.mpr hHtml, beq_eq_false_iff_ne.mpr hProblem,
      beq_eq_false_iff_ne.mpr hVideo, beq_eq_false_iff_ne.mpr hAbout]

/-- Components are written as they write themselves. -/
theorem standard_render (config : Config) (c : Component) :
    (Registry.standard config).render c = (c.render config.mediaDir).mapError .page := by
  have hHtml : Text.lower "html" = "html" := by decide
  have hProblem : Text.lower "problem" = "problem" := by decide
  have hVideo : Text.lower "video" = "video" := by decide
  have hAbout : Text.lower "about" = "about" := by decide
  cases c with
  | unknown kind id => rfl
  | html | problem | video | about =>
    simp [Registry.render, Registry.get?, Registry.standard, Component.kind, List.lookup_cons, hHtml,
      hProblem, hVideo, hAbout]

end Coursebook.Course
