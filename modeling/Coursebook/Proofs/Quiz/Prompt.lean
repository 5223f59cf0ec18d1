import Coursebook.Proofs.Quiz.Lines
import Mathlib.Data.List.Nodup

/-!
# Coursebook — the question of a quiz

A problem can ask its question once for all its responses. It is written with the first response of
any kind, so it is where it belongs exactly if this is the first response that the quiz writes
anything for.

* `responseLines_of_first`, `flatMap_responseLines` — a response that the question is written with, and
  responses that it is not written with.
* `shared_prompt_first_iff` — when the question is written once, and before all else.
* `shared_prompt_dropped` — a question that is not written.
-/

namespace Coursebook.Quiz

open Coursebook.Xml

variable {kind : Kind} {problem : Element} {r : Response} {written : List Response}

/-- The pieces of the question that a response asks itself. -/
def ownTexts (response : Element) : List String :=
  texts (response.childrenNamed "p") ++ texts (response.childrenNamed "label")

/-- The lines of the question that a problem asks for all its responses. -/
def sharedPrompt (problem : Element) : List Line :=
  (texts (problem.childrenNamed "p")).map .prompt

/-- Whether a line is a piece of a question. -/
def Line.isPrompt : Line → Bool
  | .prompt _ => true
  | _ => false

/-- What is written for a response beside its question. -/
def Kind.bodyLines (kind : Kind) (response : Element) : List Line :=
  kind.answerLines response ++ hintLines response

/-! ## One response -/

theorem isPrompt_of_mem_bodyLines {line : Line} {response : Element}
    (h : line ∈ kind.bodyLines response) : line.isPrompt = false := by
  rcases List.mem_append.mp h with hAnswer | hHint
  · cases kind with
    | multipleChoice | choice =>
      obtain ⟨c, -, rfl⟩ := List.mem_map.mp hAnswer
      rfl
    | selection =>
      unfold Kind.answerLines at hAnswer
      dsimp only at hAnswer
      split at hAnswer
      · cases hAnswer
      · rw [List.mem_singleton.mp hAnswer]
        rfl
    | textInput | numberInput =>
      rw [List.mem_singleton.mp hAnswer]
      rfl
    | formula | code | unknown => cases hAnswer
  · obtain ⟨hint, -, rfl⟩ := List.mem_map.mp hHint
    rfl

theorem isPrompt_of_mem_flatMap {line : Line}
    (h : line ∈ written.flatMap fun r => kind.bodyLines r.element) : line.isPrompt = false := by
  obtain ⟨r, -, hLine⟩ := List.mem_flatMap.mp h
  exact isPrompt_of_mem_bodyLines hLine

theorem responseLines_of_first (hOwn : ownTexts r.element = [])
    (hFirst : firstResponse? problem = some r.place) :
    kind.responseLines problem r = sharedPrompt problem ++ kind.bodyLines r.element := by
  have hTexts : promptTexts problem r = texts (problem.childrenNamed "p") := if_pos ⟨hOwn, hFirst⟩
  rw [Kind.responseLines, promptLines, hTexts, List.append_assoc]
  rfl

theorem responseLines_of_other (hOwn : ownTexts r.element = [])
    (hFirst : sharedPrompt problem = [] ∨ firstResponse? problem ≠ some r.place) :
    kind.responseLines problem r = kind.bodyLines r.element := by
  by_cases hPlace : firstResponse? problem = some r.place
  · rw [responseLines_of_first hOwn hPlace, hFirst.resolve_right (not_not.mpr hPlace), List.nil_append]
  · have hTexts : promptTexts problem r = [] := (if_neg fun h => hPlace h.2).trans hOwn
    rw [Kind.responseLines, promptLines, hTexts]
    rfl

/-- Responses that the question is not written with. -/
theorem flatMap_responseLines (hOwn : ∀ r ∈ written, ownTexts r.element = [])
    (hFirst : sharedPrompt problem = [] ∨ ∀ r ∈ written, firstResponse? problem ≠ some r.place) :
    written.flatMap (kind.responseLines problem) =
      written.flatMap fun r => kind.bodyLines r.element :=
  List.flatMap_congr fun r hr => responseLines_of_other (hOwn r hr) (hFirst.imp_right fun h => h r hr)

/-! ## All responses -/

/-- Around the first response, if it is written, there are the lines of the others without a
question. -/
theorem lines_of_first {before after : List Response}
    (hSplit : kind.rendered problem = before ++ r :: after)
    (hFirst : firstResponse? problem = some r.place)
    (hOwn : ∀ r ∈ kind.rendered problem, ownTexts r.element = []) :
    (kind.rendered problem).flatMap (kind.responseLines problem) =
      (before.flatMap fun r => kind.bodyLines r.element) ++ (sharedPrompt problem ++
        (kind.bodyLines r.element ++ after.flatMap fun r => kind.bodyLines r.element)) := by
  have hPlaces := kind.rendered_places_nodup problem
  rw [hSplit] at hOwn hPlaces ⊢
  rw [List.map_append, List.map_cons, List.nodup_middle, List.nodup_cons, List.mem_append,
    not_or] at hPlaces
  -- no other response has the same place
  have hOther {others : List Response} (hNot : r.place ∉ others.map Response.place) :
      ∀ o ∈ others, firstResponse? problem ≠ some o.place := by
    intro o ho hSame
    rw [hFirst, Option.some.injEq] at hSame
    exact hNot (List.mem_map.mpr ⟨o, ho, hSame.symm⟩)
  rw [List.flatMap_append, List.flatMap_cons, responseLines_of_first (hOwn r (by simp)) hFirst,
    flatMap_responseLines (fun o ho => hOwn o (by simp [ho])) (.inr (hOther hPlaces.1.1)),
    flatMap_responseLines (fun o ho => hOwn o (by simp [ho])) (.inr (hOther hPlaces.1.2)),
    List.append_assoc]

/-- Where lines start with the question, there is nothing but pieces of questions in front. -/
theorem eq_nil_of_prompt_first {body more rest : List Line} (hShared : sharedPrompt problem ≠ [])
    (hBody : ∀ line ∈ body, line.isPrompt = false)
    (hSame : body ++ more = sharedPrompt problem ++ rest) : body = [] := by
  cases body with
  | nil => rfl
  | cons line r =>
    exfalso
    cases hTexts : texts (problem.childrenNamed "p") with
    | nil => exact hShared (by rw [sharedPrompt, hTexts, List.map_nil])
    | cons text more =>
      rw [sharedPrompt, hTexts, List.map_cons, List.cons_append, List.cons_append] at hSame
      have hNo := hBody line List.mem_cons_self
      rw [(List.cons.inj hSame).1] at hNo
      cases hNo

/--
**When the question of a problem is written.** Where no response that is written asks a question of its
own, that of the problem is written once, and before all else, exactly if it is empty or the first
response of any kind is written, and nothing for those that are written before it.
-/
theorem shared_prompt_first_iff {lines : List Line} (displayName : String)
    (hLines : kind.lines? problem = some lines)
    (hOwn : ∀ r ∈ kind.rendered problem, ownTexts r.element = []) :
    problemText kind problem displayName = "\n".intercalate (render lines ::
      (demandHints problem).map fun h => (Line.hint h).render) ∧
    ((∃ rest, lines = sharedPrompt problem ++ rest ∧ ∀ line ∈ rest, line.isPrompt = false) ↔
      sharedPrompt problem = [] ∨ ∃ before r after, kind.rendered problem = before ++ r :: after ∧
        firstResponse? problem = some r.place ∧ ∀ b ∈ before, kind.bodyLines b.element = []) := by
  have hText := problemText_eq kind problem displayName
  rw [Kind.lines, hLines, Option.getD_some] at hText
  refine ⟨hText, ?_⟩
  rw [kind.lines?_eq hLines]
  constructor
  · rintro ⟨rest, hSame, hRest⟩
    by_cases hShared : sharedPrompt problem = []
    · exact .inl hShared
    right
    by_cases hFirst : ∃ r ∈ kind.rendered problem, firstResponse? problem = some r.place
    · obtain ⟨r, hr, hFirst⟩ := hFirst
      obtain ⟨before, after, hSplit⟩ := List.append_of_mem hr
      refine ⟨before, r, after, hSplit, hFirst, List.flatMap_eq_nil_iff.mp ?_⟩
      rw [lines_of_first hSplit hFirst hOwn] at hSame
      exact eq_nil_of_prompt_first hShared (fun _ => isPrompt_of_mem_flatMap) hSame
    · -- without the first response there is no question at all
      rw [flatMap_responseLines hOwn (.inr fun r hr h => hFirst ⟨r, hr, h⟩),
        ← List.append_nil (List.flatMap _ _)] at hSame
      have hNone := eq_nil_of_prompt_first hShared (fun _ => isPrompt_of_mem_flatMap) hSame
      rw [hNone, List.nil_append] at hSame
      exact absurd (List.append_eq_nil_iff.mp hSame.symm).1 hShared
  · rintro (hShared | ⟨before, r, after, hSplit, hFirst, hBefore⟩)
    · refine ⟨_, by rw [hShared, List.nil_append], fun line hLine => ?_⟩
      rw [flatMap_responseLines hOwn (.inl hShared)] at hLine
      exact isPrompt_of_mem_flatMap hLine
    · rw [lines_of_first hSplit hFirst hOwn, List.flatMap_eq_nil_iff.mpr hBefore, List.nil_append]
      refine ⟨_, rfl, fun line hLine => ?_⟩
      rcases List.mem_append.mp hLine with hLine | hLine
      · exact isPrompt_of_mem_bodyLines hLine
      · exact isPrompt_of_mem_flatMap hLine

/-- Two responses, of which the second has a hint: the question stands above the first. -/
theorem shared_prompt_of_fields :
    let problem : Element := ⟨"problem", [], [.element "p" [] [.text "Shared intro"],
      .element "stringresponse" [("answer", "a")] [],
      .element "stringresponse" [("answer", "b")] [.element "hint" [] [.text "Think"]]]⟩
    Kind.ofProblem problem = .textInput ∧ ∃ lines, Kind.lines? .textInput problem = some lines ∧
      ∃ rest, lines = .prompt "Shared intro" :: rest ∧ ∀ line ∈ rest, line.isPrompt = false := by
  intro problem
  have hOwn : ∀ r ∈ Kind.rendered .textInput problem, ownTexts r.element = [] := by decide +kernel
  have hFirst : sharedPrompt problem = [] ∨ ∃ before r after,
      Kind.rendered .textInput problem = before ++ r :: after ∧
        firstResponse? problem = some r.place ∧
        ∀ b ∈ before, Kind.bodyLines .textInput b.element = [] :=
    .inr ⟨[], _, _, rfl, by decide +kernel, by simp⟩
  have hLines : Kind.lines? .textInput problem = some (textInputLines problem) := rfl
  obtain ⟨rest, hSame, hRest⟩ := (shared_prompt_first_iff "" hLines hOwn).2.mpr hFirst
  refine ⟨by decide +kernel, _, hLines, rest, ?_, hRest⟩
  exact hSame

/-- A list without entries in front of a multiple choice: the question is not written. -/
theorem shared_prompt_dropped :
    let problem : Element := ⟨"problem", [], [.element "p" [] [.text "Q"],
      .element "optionresponse" [] [], .element "multiplechoiceresponse" []
        [.element "choicegroup" [] [.element "choice" [("correct", "true")] [.text "A"]]]]⟩
    Kind.ofProblem problem = .multipleChoice ∧
      (∀ r ∈ Kind.rendered .multipleChoice problem, ownTexts r.element = []) ∧
      texts (problem.childrenNamed "p") = ["Q"] ∧
      problemText .multipleChoice problem "" = "- [[X]] A" := by
  decide +kernel

end Coursebook.Quiz
