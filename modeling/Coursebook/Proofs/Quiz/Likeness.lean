import Coursebook.Proofs.Quiz.Lines
import Coursebook.Proofs.Xml.Likeness

/-!
# Coursebook — problems of one shape

Two problems of one shape, whose texts differ in their layout at most, are of one kind, have their
responses in the same places, and ask the same questions and give the same hints. So they are written in
the same way if their responses give the same to answer. They do if their attributes are the same.

* `Kind.ofProblem_alike`, `Kind.rendered_alike` — the kind and the responses.
* `problemText_alike` — the written form.
* `reformatted_problem_same` — a problem that is laid out anew.
-/

namespace Coursebook.Quiz

open Coursebook.Xml Coursebook.Text

variable {T : String → String → Prop} {A : Attributes → Attributes → Prop} {e e' : Element}
  {es es' : List Element} {problem problem' : Element}

/-! ## Texts -/

theorem texts_alike (hT : IsLayout T) (h : List.Forall₂ (Element.Alike T A) es es') :
    texts es = texts es' := by
  rw [texts, texts, map_eq_of_forall₂ (fun _ _ hLike => hLike.text_eq hT) h]

theorem hints_alike (hT : IsLayout T) (h : Element.Alike T A e e') : hints e = hints e' :=
  List.flatMap_congr fun name _ => texts_alike hT (h.childrenNamed name)

theorem demandHints_alike (hT : IsLayout T) (h : Element.Alike T A problem problem') :
    demandHints problem = demandHints problem' :=
  flatMap_eq_of_forall₂ (fun _ _ hLike => texts_alike hT (hLike.childrenNamed "hint"))
    (h.childrenNamed "demandhint")

theorem hintLines_alike (hT : IsLayout T) (h : Element.Alike T A e e') :
    hintLines e = hintLines e' := by
  rw [hintLines, hintLines, hints_alike hT h]

/-! ## Kind and responses -/

theorem Kind.ofChoiceResponse_alike (h : Element.Alike T A e e') :
    Kind.ofChoiceResponse e = Kind.ofChoiceResponse e' := by
  rw [Kind.ofChoiceResponse, Kind.ofChoiceResponse, alike_isEmpty (h.childrenNamed "checkboxgroup")]

/-- The kind of a problem is told by names, and where they stand. -/
theorem Kind.ofProblem_alike (h : Element.Alike T A problem problem') :
    Kind.ofProblem problem = Kind.ofProblem problem' := by
  have hFirst := alike_find? h.descendants (· == "choiceresponse")
  unfold Kind.ofProblem
  simp only [h.hasDescendant_eq]
  generalize problem.descendants.find? (·.name == "choiceresponse") = found at hFirst ⊢
  generalize problem'.descendants.find? (·.name == "choiceresponse") = found' at hFirst ⊢
  cases hFirst with
  | none => rfl
  | some hLike =>
    dsimp only
    rw [Kind.ofChoiceResponse_alike hLike]

/-- Responses in the same place of problems of one shape. -/
structure Response.Alike (T : String → String → Prop) (A : Attributes → Attributes → Prop)
    (r r' : Response) : Prop where
  place : r.place = r'.place
  element : Element.Alike T A r.element r'.element

/-- Elements that are alike stay so when they are counted. -/
theorem alike_zipIdx (h : List.Forall₂ (Element.Alike T A) es es') (start : Nat) :
    List.Forall₂ (fun x x' => Element.Alike T A x.1 x'.1 ∧ x.2 = x'.2) (es.zipIdx start)
      (es'.zipIdx start) := by
  induction h generalizing start with
  | nil => exact .nil
  | cons hFirst _ ih => exact .cons ⟨hFirst, rfl⟩ (ih (start + 1))

theorem responses_alike (h : Element.Alike T A problem problem') (name : String) :
    List.Forall₂ (Response.Alike T A) (responses problem name) (responses problem' name) := by
  have hFiltered := forall₂_filter (p := (·.1.name == name))
    (fun _ _ hLike => by rw [hLike.1.name]) (alike_zipIdx h.preorder 0)
  exact List.rel_map (fun _ _ hLike => ⟨hLike.2, hLike.1⟩) hFiltered

theorem firstResponse?_alike (h : Element.Alike T A problem problem') :
    firstResponse? problem = firstResponse? problem' := by
  -- the first response is told by the names alone
  have hNames (e : Element) :
      e.descendants.findIdx? (fun d => "response".toList.isSuffixOf d.name.toList) =
        (e.descendants.map Element.name).findIdx? fun name =>
          "response".toList.isSuffixOf name.toList := by
    rw [List.findIdx?_map]
    rfl
  rw [firstResponse?, firstResponse?, hNames, hNames, h.descendants_names]

theorem Kind.rendered_alike (kind : Kind) (h : Element.Alike T A problem problem') :
    List.Forall₂ (Response.Alike T A) (kind.rendered problem) (kind.rendered problem') := by
  cases kind with
  | multipleChoice =>
    -- a response has check boxes if the other one has
    refine List.rel_append (responses_alike h _) (forall₂_filter (fun r r' hLike => ?_)
      (responses_alike h _))
    rw [alike_isEmpty (hLike.element.childrenNamed "checkboxgroup")]
  | choice => exact responses_alike h _
  | selection => exact responses_alike h _
  | textInput => exact responses_alike h _
  | numberInput => exact responses_alike h _
  | formula | code | unknown => exact .nil

/-! ## The written form -/

variable {kind : Kind} {r r' : Response}

theorem promptLines_alike (hT : IsLayout T) (h : Element.Alike T A problem problem')
    (hr : Response.Alike T A r r') : promptLines problem r = promptLines problem' r' := by
  have hOwn : texts (r.element.childrenNamed "p") ++ texts (r.element.childrenNamed "label") =
      texts (r'.element.childrenNamed "p") ++ texts (r'.element.childrenNamed "label") := by
    rw [texts_alike hT (hr.element.childrenNamed "p"),
      texts_alike hT (hr.element.childrenNamed "label")]
  unfold promptLines promptTexts
  dsimp only
  rw [hOwn, firstResponse?_alike h, hr.place, texts_alike hT (h.childrenNamed "p")]

/-- A quiz is written in the same way if its responses give the same to answer. -/
theorem Kind.lines_alike (hT : IsLayout T) (h : Element.Alike T A problem problem')
    (hAnswers : ∀ e e', Element.Alike T A e e' → kind.answerLines e = kind.answerLines e')
    (displayName : String) : kind.lines problem displayName = kind.lines problem' displayName := by
  have hLines : (kind.rendered problem).flatMap (kind.responseLines problem) =
      (kind.rendered problem').flatMap (kind.responseLines problem') := by
    refine flatMap_eq_of_forall₂ (fun r r' hr => ?_) (kind.rendered_alike h)
    rw [Kind.responseLines, Kind.responseLines, promptLines_alike hT h hr, hAnswers _ _ hr.element,
      hintLines_alike hT hr.element]
  have hUnsupported : unsupportedLines problem displayName kind.name =
      unsupportedLines problem' displayName kind.name := by
    rw [unsupportedLines, unsupportedLines, texts_alike hT (h.childrenNamed "p"),
      hintLines_alike hT h]
  -- whether there is a written form is a matter of the kind
  have hSome : (kind.lines? problem).isSome = (kind.lines? problem').isSome := by
    cases kind <;> rfl
  unfold Kind.lines
  cases hThis : kind.lines? problem with
  | none =>
    rw [hThis] at hSome
    have hOther : kind.lines? problem' = none := by simpa using hSome.symm
    rw [hOther]
    exact hUnsupported
  | some lines =>
    rw [hThis] at hSome
    obtain ⟨lines', hOther⟩ := Option.isSome_iff_exists.mp hSome.symm
    rw [hOther, Kind.lines?_eq hThis, Kind.lines?_eq hOther]
    exact hLines

theorem problemText_alike (hT : IsLayout T) (h : Element.Alike T A problem problem')
    (hAnswers : ∀ e e', Element.Alike T A e e' → kind.answerLines e = kind.answerLines e')
    (displayName : String) :
    problemText kind problem displayName = problemText kind problem' displayName := by
  rw [problemText_eq, problemText_eq, Kind.lines_alike hT h hAnswers, demandHints_alike hT h]

/-! ## Problems that are laid out anew -/

/-- Texts that differ in their stretches of blanks only. -/
def LaidOut (s s' : String) : Prop := Respaced s.toList s'.toList

/-- Elements of which the one is the other with its texts laid out anew: in each of them, the blanks
between two words may be other ones. -/
def Reformatted (e e' : Element) : Prop := Element.Alike LaidOut Eq e e'

theorem isLayout_laidOut : IsLayout LaidOut := fun h => h

theorem Reformatted.attribute?_eq (h : Reformatted e e') (name : String) :
    e.attribute? name = e'.attribute? name := by
  rw [Element.attribute?, Element.attribute?, h.attributes]

theorem Reformatted.isCorrect_eq (h : Reformatted e e') : isCorrect e = isCorrect e' := by
  rw [isCorrect, isCorrect, h.attribute?_eq]

theorem Reformatted.choiceLine_eq (kind : Kind) (h : Reformatted e e') :
    kind.choiceLine e = kind.choiceLine e' := by
  rw [Kind.choiceLine, Kind.choiceLine, h.isCorrect_eq, h.textWithout_eq isLayout_laidOut]

theorem Reformatted.choicesOf (kind : Kind) (h : Reformatted e e') :
    List.Forall₂ Reformatted (kind.choicesOf e) (kind.choicesOf e') := by
  unfold Kind.choicesOf
  rw [h.name]
  split
  · next name _ =>
    exact List.rel_flatMap (h.childrenNamed name) fun _ _ hGroup => hGroup.childrenNamed "choice"
  · exact .nil

theorem Reformatted.listedOptions_eq (h : Reformatted e e') : listedOptions e = listedOptions e' := by
  rw [listedOptions, listedOptions, h.attribute?_eq, h.attribute?_eq]

theorem Reformatted.options_eq (h : Reformatted e e') : options e = options e' := by
  refine flatMap_eq_of_forall₂ (fun input input' hInput => ?_) (h.childrenNamed "optioninput")
  have hOptions := hInput.childrenNamed "option"
  -- either both have elements for the entries or none has
  generalize input.childrenNamed "option" = os at hOptions ⊢
  generalize input'.childrenNamed "option" = os' at hOptions ⊢
  cases hOptions with
  | nil => exact Reformatted.listedOptions_eq hInput
  | cons hFirst hRest =>
    refine map_eq_of_forall₂ (R := Reformatted) (fun o o' ho => ?_) (.cons hFirst hRest)
    rw [ho.textWithout_eq isLayout_laidOut, Reformatted.isCorrect_eq ho]

theorem Reformatted.acceptedAnswers_eq (h : Reformatted e e') :
    acceptedAnswers e = acceptedAnswers e' := by
  have hOthers : ((e.childrenNamed "additional_answer").map fun a =>
        (a.attribute? "answer").getD a.text) =
      (e'.childrenNamed "additional_answer").map fun a => (a.attribute? "answer").getD a.text := by
    refine map_eq_of_forall₂ (R := Reformatted) (fun a a' ha => ?_) (h.childrenNamed _)
    rw [ha.attribute?_eq, ha.text_eq isLayout_laidOut]
  unfold acceptedAnswers
  dsimp only
  rw [h.attribute?_eq, hOthers]

/-- What a response gives to answer is told by its attributes and the words in it. -/
theorem Reformatted.answerLines_eq (kind : Kind) (h : Reformatted e e') :
    kind.answerLines e = kind.answerLines e' := by
  cases kind with
  | multipleChoice | choice =>
    exact map_eq_of_forall₂ (fun _ _ hChoice => hChoice.choiceLine_eq _) (h.choicesOf _)
  | selection =>
    unfold Kind.answerLines
    rw [h.options_eq]
  | textInput =>
    unfold Kind.answerLines
    rw [h.acceptedAnswers_eq]
  | numberInput | formula | code | unknown => rfl

/-- A problem that is laid out anew is of the same kind, and as a quiz of any kind it is written in the
same way. -/
theorem reformatted_problem_same {problem problem' : Element} (h : Reformatted problem problem') :
    Kind.ofProblem problem' = Kind.ofProblem problem ∧
      ∀ (kind : Kind) (displayName : String),
        problemText kind problem' displayName = problemText kind problem displayName := by
  refine ⟨(Kind.ofProblem_alike h).symm, fun kind displayName => ?_⟩
  exact (problemText_alike isLayout_laidOut h (fun _ _ => Reformatted.answerLines_eq kind)
    displayName).symm

/-- A question and a choice with feedback, broken into lines by `w` wherever there is a blank. -/
def brokenBy (w : String) : Element where
  name := "problem"
  content := [.text w, .element "p" [] [.text ("Two" ++ w), .element "b" [] [.text (w ++ "plus")],
      .text (w ++ "two?")],
    .element "multiplechoiceresponse" [] [.element "choicegroup" []
      [.element "choice" [("correct", "true")] [.text ("It is" ++ w),
        .element "choicehint" [] [.text (w ++ "well done" ++ w)], .text (w ++ "four")]]]]

theorem reformatted_brokenBy {w w' : String} (hw : IsRun isBlank w.toList)
    (hw' : IsRun isBlank w'.toList) : Reformatted (brokenBy w) (brokenBy w') := by
  have hBlank : Respaced w.toList w'.toList := by
    have hAlone := Respaced.stretch hw hw' .nil
    rwa [List.append_nil, List.append_nil] at hAlone
  have hBefore (s : String) : LaidOut (w ++ s) (w' ++ s) := by
    rw [LaidOut, String.toList_append, String.toList_append]
    exact hBlank.append (.refl _)
  have hBehind {s s' : String} (h : LaidOut s s') : LaidOut (s ++ w) (s' ++ w') := by
    rw [LaidOut, String.toList_append, String.toList_append]
    exact Respaced.append h hBlank
  have hWord (s : String) : LaidOut s s := .refl _
  refine ⟨rfl, rfl, .cons (.text hBlank) (.cons ?question (.cons ?answer .nil))⟩
  case question =>
    exact .element _ rfl (.cons (.text (hBehind (hWord "Two")))
      (.cons (.element _ rfl (.cons (.text (hBefore "plus")) .nil))
        (.cons (.text (hBefore "two?")) .nil)))
  case answer =>
    refine .element _ rfl (.cons (.element _ rfl (.cons (.element _ rfl ?choice) .nil)) .nil)
    exact .cons (.text (hBehind (hWord "It is")))
      (.cons (.element _ rfl (.cons (.text (hBehind (hBefore "well done"))) .nil))
        (.cons (.text (hBefore "four")) .nil))

/-- The problem with its lines broken and set in. A stretch of blanks goes on from a text into the
element behind it, one stands inside of feedback, and one text is nothing else. -/
theorem brokenBy_same :
    Reformatted (brokenBy " ") (brokenBy "\n \t") ∧
      Kind.ofProblem (brokenBy "\n \t") = Kind.ofProblem (brokenBy " ") ∧
      problemText .multipleChoice (brokenBy "\n \t") "" = "Two plus two?\n\n- [[X]] It is four" := by
  have hReformatted : Reformatted (brokenBy " ") (brokenBy "\n \t") :=
    reformatted_brokenBy ⟨by decide, by simp [isBlank]⟩ ⟨by decide, by simp [isBlank]⟩
  obtain ⟨hKind, hText⟩ := reformatted_problem_same hReformatted
  refine ⟨hReformatted, hKind, (hText .multipleChoice "").trans ?_⟩
  decide +kernel

end Coursebook.Quiz
