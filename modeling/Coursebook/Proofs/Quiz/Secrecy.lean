import Coursebook.Proofs.Quiz.Feedback
import Coursebook.Proofs.Quiz.Prompt

/-!
# Coursebook — feedback that is not told

The text of a choice leaves the feedback to it out. The text of a question or hint does not, and there
may be a choice in it, with feedback. So a quiz tells nothing of the feedback exactly if none stands in
a question or hint that it shows.

A quiz with other feedback has the same responses, in the same places (`Kind.seats_withFeedback`), and
the same answers (`answerLines_refill`), so only the texts that are shown as a whole can differ.

* `Kind.shown` — the elements of which all text is shown.
* `problemText_withFeedback` — other feedback, where none is shown.
* `Kind.told_of_shown` — other feedback, where some is shown.
* `feedback_untold_iff` — when a quiz tells nothing of the feedback.
* `feedback_in_question` — feedback that is told.
-/

namespace Coursebook

open Xml

/-- A problem with other feedback in the place of its own. -/
def Xml.Element.withFeedback (problem : Element) (other : List Item) : Element :=
  (Placed.refill other ⟨false, problem⟩).element

namespace Quiz

variable {kind : Kind} {problem : Element} {other : List Item}

/-! ## Responses -/

/-- Whether an element is a response of any kind. -/
def isResponse (e : Element) : Bool := "response".toList.isSuffixOf e.name.toList

/-- A response that does not stand in feedback, and whether it is the first one below its problem. -/
structure Seat extends Placed where
  first : Bool

/-- A response with other feedback. -/
def Seat.refill (other : List Item) (x : Seat) : Seat := { x with toPlaced := x.toPlaced.refill other }

/-- Responses in their order. -/
def seatsOf : List Placed → List Seat
  | [] => []
  | x :: r => ⟨x, true⟩ :: r.map (⟨·, false⟩)

/-- The elements below a problem that are responses and do not stand in feedback. -/
def placedResponses (problem : Element) : List Placed :=
  (placedOf (entersAnswer false problem.name) problem.content).filter fun x => isResponse x.element

/-- The problem, in case it is a response itself, and the responses below it. -/
def seats (problem : Element) : List Seat :=
  ⟨⟨false, problem⟩, false⟩ :: seatsOf (placedResponses problem)

/-- Those of them that have a name. -/
def seatsNamed (problem : Element) (name : String) : List Seat :=
  (seats problem).filter (·.element.name == name)

/-- The responses that a quiz of a kind is written from. -/
def Kind.seats (kind : Kind) (problem : Element) : List Seat :=
  match kind with
  | .multipleChoice => seatsNamed problem "multiplechoiceresponse" ++
      (seatsNamed problem "choiceresponse").filter fun x =>
        !(x.element.childrenNamed "checkboxgroup").isEmpty
  | .choice => seatsNamed problem "choiceresponse"
  | .selection => seatsNamed problem "optionresponse"
  | .textInput => seatsNamed problem "stringresponse"
  | .numberInput => seatsNamed problem "numericalresponse"
  | .formula | .code | .unknown => []

/-- Whether the feedback in a problem is made of text and elements other than responses. -/
def HasPlainFeedback (problem : Element) : Prop :=
  ∀ content ∈ problem.item.feedback false, ∀ e ∈ elementsOf content, isResponse e = false

instance (problem : Element) : Decidable (HasPlainFeedback problem) :=
  inferInstanceAs (Decidable (∀ content ∈ problem.item.feedback false, _))

theorem filter_descendants (hPlain : HasPlainFeedback problem) :
    problem.descendants.filter isResponse = (placedResponses problem).map Placed.element := by
  rw [placedResponses, ← Function.comp_def isResponse, ← List.filter_map]
  exact filter_elementsOf problem.content hPlain

/-- A response is no feedback. -/
theorem isFeedback_of_isResponse {inAnswer : Bool} {e : Element} (h : isResponse e = true) :
    isFeedback inAnswer e.name = false := by
  have hNames : ∀ name ∈ feedbackNames, "response".toList.isSuffixOf name.toList = false := by
    decide +kernel
  refine isFeedback_of_not_mem fun hName => ?_
  rw [isResponse, hNames e.name hName] at h
  cases h

/-! ## The responses that are written -/

/-- Elements, with a mark at the first one. -/
def marked : List Element → List (Element × Bool)
  | [] => []
  | e :: r => (e, true) :: r.map (·, false)

theorem seatsOf_map (xs : List Placed) :
    (seatsOf xs).map (fun x => (x.element, x.first)) = marked (xs.map Placed.element) := by
  cases xs with
  | nil => rfl
  | cons x r =>
    rw [seatsOf, List.map_cons, List.map_cons, marked, List.map_map, List.map_map]
    rfl

/-- Among elements that are counted from some number on, those of a name that only responses have. -/
theorem filter_zipIdx_responses {name : String}
    (hName : ∀ e : Element, e.name = name → isResponse e = true) (elements : List Element)
    (start : Nat) : ((elements.zipIdx start).filter (·.1.name == name)).map Prod.fst =
      (elements.filter isResponse).filter (·.name == name) := by
  show ((elements.zipIdx start).filter ((·.name == name) ∘ Prod.fst)).map Prod.fst = _
  rw [← List.filter_map, List.zipIdx_map_fst, List.filter_filter]
  refine List.filter_congr fun e _ => ?_
  by_cases h : e.name = name
  · rw [hName e h, Bool.and_true]
  · rw [beq_eq_false_iff_ne.mpr h, Bool.false_and]

/-- The first of them that is a response is the one with the place of the first response. -/
theorem marked_zipIdx {name : String} (hName : ∀ e : Element, e.name = name → isResponse e = true)
    (elements : List Element) (start : Nat) :
    ((elements.zipIdx start).filter (·.1.name == name)).map (fun x =>
        (x.1, decide ((elements.findIdx? isResponse).map (· + start) = some x.2))) =
      (marked (elements.filter isResponse)).filter (·.1.name == name) := by
  induction elements generalizing start with
  | nil => rfl
  | cons e r ih =>
    rw [List.findIdx?_cons, List.zipIdx_cons, List.filter_cons]
    by_cases hResponse : isResponse e = true
    · -- the responses after the first one have greater places
      have hLater : ∀ x ∈ (r.zipIdx (start + 1)).filter (·.1.name == name),
          (x.1, decide (some (0 + start) = some x.2)) = (x.1, false) := by
        intro x hx
        have hPlace := (List.mem_zipIdx (List.mem_filter.mp hx).1).1
        have hOther : ¬ some (0 + start) = some x.2 := by
          rw [Option.some.injEq]
          omega
        rw [decide_eq_false hOther]
      have hRest := congrArg (List.map (·, false)) (filter_zipIdx_responses hName r (start + 1))
      rw [List.map_map] at hRest
      rw [if_pos hResponse, Option.map_some, List.filter_cons_of_pos hResponse, marked,
        List.filter_cons, List.filter_map]
      by_cases hThis : (e.name == name) = true
      · have hHere : decide (some (0 + start) = some start) = true := by simp
        rw [if_pos hThis, if_pos hThis, List.map_cons, List.map_congr_left hLater, hHere]
        exact congrArg _ hRest
      · rw [if_neg hThis, if_neg hThis, List.map_congr_left hLater]
        exact hRest
    · -- what is no response has another name, and the others follow one place further on
      have hThis : ¬ (e.name == name) = true := fun h => hResponse (hName e (beq_iff_eq.mp h))
      have hFirst : ((r.findIdx? isResponse).map (· + 1)).map (· + start) =
          (r.findIdx? isResponse).map (· + (start + 1)) := by
        rw [Option.map_map]
        congr 1
        funext place
        show place + 1 + start = _
        omega
      rw [if_neg hResponse, if_neg hThis, hFirst, List.filter_cons_of_neg hResponse, ih]

theorem responses_seats (hPlain : HasPlainFeedback problem) {name : String}
    (hName : ∀ e : Element, e.name = name → isResponse e = true) :
    (responses problem name).map (fun r =>
        (r.element, decide (firstResponse? problem = some r.place))) =
      (seatsNamed problem name).map fun x => (x.element, x.first) := by
  -- the places below the problem are counted from one on, as the problem has place zero
  have hBelow := marked_zipIdx hName problem.descendants 1
  rw [filter_descendants hPlain, ← seatsOf_map, List.filter_map] at hBelow
  -- which is why the problem itself is never the first response
  have hRoot : decide (firstResponse? problem = some 0) = false := by
    refine decide_eq_false fun h => ?_
    obtain ⟨place, -, hPlace⟩ := Option.map_eq_some_iff.mp h
    omega
  rw [responses, List.map_map, Element.preorder, List.zipIdx_cons, List.filter_cons, seatsNamed,
    seats, List.filter_cons]
  by_cases h : (problem.name == name) = true
  · rw [if_pos h, if_pos h, List.map_cons, List.map_cons]
    exact congrArg₂ List.cons (congrArg (problem, ·) hRoot) hBelow
  · rw [if_neg h, if_neg h]
    exact hBelow

/-- The responses that a quiz is written from are those that do not stand in feedback, and their places
tell which is the first. -/
theorem Kind.rendered_seats (hPlain : HasPlainFeedback problem) (kind : Kind) :
    (kind.rendered problem).map (fun r =>
        (r.element, decide (firstResponse? problem = some r.place))) =
      (kind.seats problem).map fun x => (x.element, x.first) := by
  have hNamed (name : String) (h : "response".toList.isSuffixOf name.toList = true) :
      (Quiz.responses problem name).map (fun r =>
          (r.element, decide (firstResponse? problem = some r.place))) =
        (seatsNamed problem name).map fun x => (x.element, x.first) :=
    responses_seats hPlain fun e he => by rwa [isResponse, he]
  cases kind with
  | multipleChoice =>
    -- the check boxes of other responses come after all that are written with round boxes
    have hBoxes := congrArg (List.filter fun x : Element × Bool =>
      !(x.1.childrenNamed "checkboxgroup").isEmpty) (hNamed "choiceresponse" rfl)
    rw [List.filter_map, List.filter_map] at hBoxes
    rw [Kind.rendered, Kind.seats, List.map_append, List.map_append,
      hNamed "multiplechoiceresponse" rfl]
    exact congrArg _ hBoxes
  | choice => exact hNamed _ rfl
  | selection => exact hNamed _ rfl
  | textInput => exact hNamed _ rfl
  | numberInput => exact hNamed _ rfl
  | formula => rfl
  | code => rfl
  | unknown => rfl

theorem Kind.isResponse_of_mem_seats {x : Seat} (h : x ∈ kind.seats problem) :
    isResponse x.element = true := by
  have hNamed {name : String} (h : x ∈ seatsNamed problem name)
      (hName : "response".toList.isSuffixOf name.toList = true) : isResponse x.element = true := by
    rwa [isResponse, beq_iff_eq.mp (List.mem_filter.mp h).2]
  cases kind with
  | multipleChoice =>
    rcases List.mem_append.mp h with h | h
    · exact hNamed h rfl
    · exact hNamed (List.mem_filter.mp h).1 rfl
  | choice | selection | textInput | numberInput => exact hNamed h rfl
  | formula | code | unknown => cases h

/-! ## Responses with other feedback -/

theorem placedResponses_withFeedback : placedResponses (problem.withFeedback other) =
    (placedResponses problem).map (Placed.refill other) := by
  have hPlaced : placedOf (entersAnswer false problem.name)
      (refillAll other (entersAnswer false problem.name) problem.content) = _ :=
    placedOf_refillAll _ _
  show List.filter _ (placedOf _ (refillAll other _ problem.content)) = _
  rw [show (problem.withFeedback other).name = problem.name from rfl, hPlaced, List.filter_map]
  rfl

theorem seats_withFeedback :
    seats (problem.withFeedback other) = (seats problem).map (Seat.refill other) := by
  rw [seats, seats, placedResponses_withFeedback]
  cases placedResponses problem with
  | nil => rfl
  | cons x r =>
    rw [List.map_cons, seatsOf, seatsOf, List.map_cons, List.map_cons, List.map_map, List.map_map]
    rfl

theorem seatsNamed_withFeedback (name : String) : seatsNamed (problem.withFeedback other) name =
    (seatsNamed problem name).map (Seat.refill other) := by
  rw [seatsNamed, seatsNamed, seats_withFeedback, List.filter_map]
  rfl

theorem Kind.seats_withFeedback (kind : Kind) :
    kind.seats (problem.withFeedback other) = (kind.seats problem).map (Seat.refill other) := by
  cases kind with
  | multipleChoice =>
    rw [Kind.seats, Kind.seats, List.map_append, seatsNamed_withFeedback, seatsNamed_withFeedback,
      List.filter_map]
    congr 2
    -- whether there are check boxes does not depend on the feedback
    refine List.filter_congr fun x hx => ?_
    have hResponse : isResponse x.element = true := by
      rw [isResponse, beq_iff_eq.mp (List.mem_filter.mp hx).2]
      rfl
    show (!((x.toPlaced.refill other).element.childrenNamed "checkboxgroup").isEmpty) = _
    rw [← Placed.map_element_childrenNamed, ← Placed.map_element_childrenNamed,
      Placed.childrenNamed_refill (isFeedback_of_isResponse hResponse)]
    simp
  | choice => exact seatsNamed_withFeedback _
  | selection => exact seatsNamed_withFeedback _
  | textInput => exact seatsNamed_withFeedback _
  | numberInput => exact seatsNamed_withFeedback _
  | formula => rfl
  | code => rfl
  | unknown => rfl

/-! ## Answers -/

variable {x : Placed}

theorem not_mem_feedbackNames_of_groupName? {response name : String}
    (h : kind.groupName? response = some name) : name ∉ feedbackNames := by
  have hMem (groups : List (String × String)) (h : groups.lookup response = some name) :
      name ∈ groups.map Prod.snd := by
    obtain ⟨before, after, hSplit, -⟩ := List.lookup_eq_some_iff.mp h
    rw [hSplit]
    simp
  cases kind with
  | multipleChoice =>
    have hName := hMem _ h
    clear h hMem
    revert name
    decide
  | choice =>
    have hName := hMem _ h
    clear h hMem
    revert name
    decide
  | selection | textInput | numberInput | formula | code | unknown => cases h

theorem map_choiceLine_refill (h : isResponse x.element = true) (kind : Kind) :
    (kind.choicesOf (x.refill other).element).map kind.choiceLine =
      (kind.choicesOf x.element).map kind.choiceLine := by
  have hChoices (y : Placed) (name : String) :
      (y.element.childrenNamed name).flatMap (·.childrenNamed "choice") =
        ((y.childrenNamed name).flatMap (·.childrenNamed "choice")).map Placed.element := by
    rw [← y.map_element_childrenNamed, List.flatMap_map, List.map_flatMap]
    exact List.flatMap_congr fun group _ => (group.map_element_childrenNamed "choice").symm
  unfold Kind.choicesOf
  rw [show (x.refill other).element.name = x.element.name from rfl]
  cases hGroup : kind.groupName? x.element.name with
  | none => rfl
  | some name =>
    have hName := not_mem_feedbackNames_of_groupName? hGroup
    dsimp only
    rw [hChoices, hChoices, Placed.grandchildren_refill (isFeedback_of_isResponse h) hName,
      List.map_map, List.map_map, List.map_map]
    refine List.map_congr_left fun choice hChoice => ?_
    obtain ⟨group, -, hMem⟩ := List.mem_flatMap.mp hChoice
    have hChoiceName := Placed.name_of_mem_childrenNamed hMem
    -- the box is told by the attributes, and the text leaves the feedback out
    have hText := choice.answerText_refill other
      (isFeedback_of_not_mem (by rw [hChoiceName]; decide)) (by rw [hChoiceName]; decide)
    show Line.choice _ _ _ = Line.choice _ _ _
    rw [hText]
    rfl

/-- The entries that an element of a list gives. -/
def inputOptions (input : Element) : List (String × Bool) :=
  match input.childrenNamed "option" with
  | [] => listedOptions input
  | os => os.map fun o => (o.textWithout feedbackNames, isCorrect o)

theorem inputOptions_refill (h : x.element.name = "optioninput") :
    inputOptions (x.refill other).element = inputOptions x.element := by
  have hInput : isFeedback x.inAnswer x.element.name = false :=
    isFeedback_of_not_mem (by rw [h]; decide)
  unfold inputOptions
  rw [← Placed.map_element_childrenNamed, ← Placed.map_element_childrenNamed,
    Placed.childrenNamed_refill hInput]
  have hNames : ∀ o ∈ x.childrenNamed "option", o.element.name = "option" :=
    fun o => Placed.name_of_mem_childrenNamed
  cases hOptions : x.childrenNamed "option" with
  | nil => rfl
  | cons o r =>
    rw [hOptions] at hNames
    show (((o :: r).map (Placed.refill other)).map Placed.element).map _ =
      ((o :: r).map Placed.element).map _
    rw [List.map_map, List.map_map, List.map_map]
    refine List.map_congr_left fun o ho => ?_
    have hName := hNames o ho
    have hText := o.answerText_refill other
      (isFeedback_of_not_mem (by rw [hName]; decide)) (by rw [hName]; decide)
    exact congrArg (·, isCorrect o.element) hText

theorem options_refill (h : isResponse x.element = true) :
    options (x.refill other).element = options x.element := by
  show ((x.refill other).element.childrenNamed "optioninput").flatMap inputOptions =
    (x.element.childrenNamed "optioninput").flatMap inputOptions
  rw [← Placed.map_element_childrenNamed, ← Placed.map_element_childrenNamed,
    Placed.childrenNamed_refill (isFeedback_of_isResponse h), List.flatMap_map, List.flatMap_map,
    List.flatMap_map]
  exact List.flatMap_congr fun input hInput =>
    inputOptions_refill (Placed.name_of_mem_childrenNamed hInput)

/-- The kinds of quiz with answers to choose from. -/
def Kind.offers : Kind → Bool
  | .multipleChoice | .choice | .selection => true
  | _ => false

theorem answerLines_refill (hKind : kind.offers = true) (h : isResponse x.element = true) :
    kind.answerLines (x.refill other).element = kind.answerLines x.element := by
  cases kind with
  | multipleChoice => exact map_choiceLine_refill h _
  | choice => exact map_choiceLine_refill h _
  | selection =>
    unfold Kind.answerLines
    rw [options_refill h]
  | textInput | numberInput | formula | code | unknown => cases hKind

/-! ## The texts that are shown -/

/-- The elements with the question that a response asks itself. -/
def questions (x : Placed) : List Placed := x.childrenNamed "p" ++ x.childrenNamed "label"

/-- The elements with the hints of a response. -/
def hintElements (x : Placed) : List Placed := hintNames.flatMap x.childrenNamed

/-- The elements with the question that a problem asks for all its responses. -/
def sharedQuestions (problem : Element) : List Placed := Placed.childrenNamed ⟨false, problem⟩ "p"

/-- The elements with the hints on demand. -/
def demandElements (problem : Element) : List Placed :=
  (Placed.childrenNamed ⟨false, problem⟩ "demandhint").flatMap (·.childrenNamed "hint")

/-- Whether the question of the problem is written with a response. -/
def Seat.IsShared (x : Seat) : Prop := ownTexts x.element = [] ∧ x.first = true

instance (x : Seat) : Decidable x.IsShared := inferInstanceAs (Decidable (_ ∧ _))

/-- The elements of which all text is shown with a response, as far as there is any. -/
def Seat.shown (problem : Element) (x : Seat) : List Placed :=
  questions x.toPlaced ++ (if x.IsShared then sharedQuestions problem else []) ++
    hintElements x.toPlaced

/-- The elements of a problem of which all text is shown in a quiz of a kind. -/
def Kind.shown (kind : Kind) (problem : Element) : List Placed :=
  (kind.seats problem).flatMap (Seat.shown problem) ++ demandElements problem

/-- Whether there is no feedback in elements. -/
def IsFree (elements : List Placed) : Prop := ∀ t ∈ elements, t.feedback = []

instance (elements : List Placed) : Decidable (IsFree elements) :=
  inferInstanceAs (Decidable (∀ t ∈ elements, t.feedback = []))

variable {elements elements' : List Placed}

@[simp] theorem isFree_append :
    IsFree (elements ++ elements') ↔ IsFree elements ∧ IsFree elements' :=
  List.forall_mem_append

@[simp] theorem isFree_map_refill : IsFree (elements.map (Placed.refill other)) ↔ IsFree elements := by
  unfold IsFree
  rw [List.forall_mem_map]
  refine forall_congr' fun t => forall_congr' fun _ => ?_
  rw [Placed.feedback_refill, List.map_eq_nil_iff]

theorem IsFree.map_refill (h : IsFree elements) : elements.map (Placed.refill other) = elements :=
  (List.map_congr_left fun t ht => Placed.refill_eq_self (h t ht)).trans (List.map_id _)

theorem questions_refill (h : isResponse x.element = true) :
    questions (x.refill other) = (questions x).map (Placed.refill other) := by
  have hFeedback : isFeedback x.inAnswer x.element.name = false := isFeedback_of_isResponse h
  rw [questions, questions, List.map_append, Placed.childrenNamed_refill hFeedback,
    Placed.childrenNamed_refill hFeedback]

theorem hintElements_refill (h : isResponse x.element = true) :
    hintElements (x.refill other) = (hintElements x).map (Placed.refill other) := by
  rw [hintElements, hintElements, List.map_flatMap]
  exact List.flatMap_congr fun name _ =>
    Placed.childrenNamed_refill (isFeedback_of_isResponse h) name

theorem sharedQuestions_withFeedback : sharedQuestions (problem.withFeedback other) =
    (sharedQuestions problem).map (Placed.refill other) :=
  Placed.childrenNamed_refill (x := ⟨false, problem⟩) rfl "p"

theorem demandElements_withFeedback : demandElements (problem.withFeedback other) =
    (demandElements problem).map (Placed.refill other) :=
  Placed.grandchildren_refill (x := ⟨false, problem⟩) rfl (by decide) "hint"

/-! ## What is written of them -/

theorem texts_append (elements elements' : List Element) :
    texts (elements ++ elements') = texts elements ++ texts elements' := by
  rw [texts, List.map_append, List.filter_append]
  rfl

theorem ownTexts_eq (x : Placed) : ownTexts x.element = texts ((questions x).map Placed.element) := by
  rw [questions, List.map_append, x.map_element_childrenNamed, x.map_element_childrenNamed,
    texts_append]
  rfl

theorem texts_flatMap {α : Type} (f : α → List Element) (l : List α) :
    texts (l.flatMap f) = l.flatMap fun a => texts (f a) := by
  rw [texts, List.map_flatMap, List.filter_flatMap]
  rfl

theorem hints_eq (x : Placed) : hints x.element = texts ((hintElements x).map Placed.element) := by
  rw [hintElements, List.map_flatMap, texts_flatMap]
  exact List.flatMap_congr fun name _ => by rw [x.map_element_childrenNamed]

theorem texts_shared_eq (problem : Element) :
    texts (problem.childrenNamed "p") = texts ((sharedQuestions problem).map Placed.element) := by
  rw [sharedQuestions, Placed.map_element_childrenNamed]

theorem demandHints_eq (problem : Element) :
    demandHints problem = texts ((demandElements problem).map Placed.element) := by
  rw [demandElements, List.map_flatMap, texts_flatMap, demandHints,
    ← Placed.map_element_childrenNamed ⟨false, problem⟩, List.flatMap_map]
  exact List.flatMap_congr fun e _ => by rw [← e.map_element_childrenNamed]

/-- The question that is written with a response. -/
def Seat.asked (problem : Element) (x : Seat) : List String :=
  if x.IsShared then texts (problem.childrenNamed "p") else ownTexts x.element

/-- The lines of a response. -/
def Seat.lines (kind : Kind) (problem : Element) (x : Seat) : List Line :=
  (x.asked problem).map .prompt ++ kind.answerLines x.element ++ hintLines x.element

theorem lines_seats (hPlain : HasPlainFeedback problem) (hKind : kind.offers = true)
    (displayName : String) :
    kind.lines problem displayName = (kind.seats problem).flatMap (Seat.lines kind problem) := by
  -- a response is written from its element and from whether it is the first, not from its place
  let linesOf (x : Element × Bool) : List Line :=
    (if ownTexts x.1 = [] ∧ x.2 = true then texts (problem.childrenNamed "p")
      else ownTexts x.1).map .prompt ++ kind.answerLines x.1 ++ hintLines x.1
  have hResponse (r : Response) : kind.responseLines problem r =
      linesOf (r.element, decide (firstResponse? problem = some r.place)) := by
    simp only [linesOf, decide_eq_true_eq]
    rfl
  have hLines : kind.lines problem displayName =
      (kind.rendered problem).flatMap (kind.responseLines problem) := by
    unfold Kind.lines
    cases kind with
    | multipleChoice | choice | selection => exact Kind.lines?_eq rfl
    | textInput | numberInput | formula | code | unknown => cases hKind
  rw [hLines, List.flatMap_congr fun r _ => hResponse r]
  have hSeats := congrArg (List.flatMap linesOf) (Kind.rendered_seats hPlain kind)
  rw [List.flatMap_map, List.flatMap_map] at hSeats
  exact hSeats

/-! ## Other feedback, where none is shown -/

theorem IsFree.texts_refill (h : IsFree elements) :
    texts ((elements.map (Placed.refill other)).map Placed.element) =
      texts (elements.map Placed.element) := by
  rw [h.map_refill]

theorem ownTexts_refill (h : isResponse x.element = true) (hFree : IsFree (questions x)) :
    ownTexts (x.refill other).element = ownTexts x.element := by
  rw [ownTexts_eq, ownTexts_eq, questions_refill h, hFree.texts_refill]

theorem texts_shared_withFeedback (hFree : IsFree (sharedQuestions problem)) :
    texts ((problem.withFeedback other).childrenNamed "p") = texts (problem.childrenNamed "p") := by
  rw [texts_shared_eq, texts_shared_eq, sharedQuestions_withFeedback, hFree.texts_refill]

/-- Whether the question of the problem is written with a response does not depend on feedback that is
not shown. -/
theorem Seat.isShared_refill {x : Seat} (h : isResponse x.element = true)
    (hFree : IsFree (questions x.toPlaced)) : (x.refill other).IsShared ↔ x.IsShared := by
  have hOwn : ownTexts (x.refill other).element = ownTexts x.element := ownTexts_refill h hFree
  rw [Seat.IsShared, hOwn]
  rfl

theorem Seat.isFree_shown_refill {x : Seat} (h : isResponse x.element = true) :
    IsFree ((x.refill other).shown (problem.withFeedback other)) ↔ IsFree (x.shown problem) := by
  have hQuestions : questions (x.refill other).toPlaced = _ := questions_refill h
  have hHints : hintElements (x.refill other).toPlaced = _ := hintElements_refill h
  rw [Seat.shown, Seat.shown, hQuestions, hHints, sharedQuestions_withFeedback]
  simp only [isFree_append, isFree_map_refill]
  -- without feedback in its own question, a response still asks that question or still does not
  refine and_congr_left fun _ => and_congr_right fun hFree => ?_
  by_cases hIs : x.IsShared
  · rw [if_pos hIs, if_pos ((Seat.isShared_refill h hFree).mpr hIs), isFree_map_refill]
  · rw [if_neg hIs, if_neg (mt (Seat.isShared_refill h hFree).mp hIs)]

/-- Where feedback is shown is the same, whatever it is. -/
theorem Kind.isFree_shown_withFeedback (kind : Kind) :
    IsFree (kind.shown (problem.withFeedback other)) ↔ IsFree (kind.shown problem) := by
  have hSeats {f : Seat → List Placed} {seats : List Seat} :
      IsFree (seats.flatMap f) ↔ ∀ x ∈ seats, IsFree (f x) := by
    unfold IsFree
    simp only [List.mem_flatMap]
    exact ⟨fun h x hx t ht => h t ⟨x, hx, ht⟩, fun h t ⟨x, hx, ht⟩ => h x hx t ht⟩
  rw [Kind.shown, Kind.shown, isFree_append, isFree_append, hSeats, hSeats,
    demandElements_withFeedback, isFree_map_refill, Kind.seats_withFeedback, List.forall_mem_map]
  refine and_congr_left fun _ => forall_congr' fun x => forall_congr' fun hx => ?_
  exact Seat.isFree_shown_refill (Kind.isResponse_of_mem_seats hx)

/-- A response is written as it is with other feedback, where none is shown with it. -/
theorem Seat.lines_refill {x : Seat} (hKind : kind.offers = true) (h : isResponse x.element = true)
    (hFree : IsFree (x.shown problem)) :
    (x.refill other).lines kind (problem.withFeedback other) = x.lines kind problem := by
  rw [Seat.shown, isFree_append, isFree_append] at hFree
  obtain ⟨⟨hQuestions, hShared⟩, hHints⟩ := hFree
  have hAnswers : kind.answerLines (x.refill other).element = kind.answerLines x.element :=
    answerLines_refill hKind h
  have hHintTexts : hints (x.refill other).element = hints x.element := by
    have hElements : hintElements (x.refill other).toPlaced = _ := hintElements_refill h
    rw [hints_eq, hints_eq, hElements, hHints.texts_refill]
  have hAsked : (x.refill other).asked (problem.withFeedback other) = x.asked problem := by
    unfold Seat.asked
    by_cases hIs : x.IsShared
    · rw [if_pos hIs] at hShared
      rw [if_pos hIs, if_pos ((Seat.isShared_refill h hQuestions).mpr hIs),
        texts_shared_withFeedback hShared]
    · rw [if_neg hIs, if_neg (mt (Seat.isShared_refill h hQuestions).mp hIs)]
      exact ownTexts_refill h hQuestions
  rw [Seat.lines, Seat.lines, hAsked, hAnswers, hintLines, hHintTexts]
  rfl

theorem hasPlainFeedback_withFeedback (hOther : ∀ e ∈ elementsOf other, isResponse e = false) :
    HasPlainFeedback (problem.withFeedback other) := by
  intro content hContent
  have hFeedback : (problem.withFeedback other).item.feedback false = _ :=
    problem.item.feedback_refill false
  rw [hFeedback] at hContent
  obtain ⟨-, -, rfl⟩ := List.mem_map.mp hContent
  exact hOther

theorem find?_descendants (hPlain : HasPlainFeedback problem) {name : String}
    (hName : "response".toList.isSuffixOf name.toList = true) :
    problem.descendants.find? (·.name == name) =
      ((placedResponses problem).find? (·.element.name == name)).map Placed.element := by
  have hResponses : problem.descendants.find? (·.name == name) =
      (problem.descendants.filter isResponse).find? (·.name == name) := by
    rw [List.find?_filter]
    congr 1
    funext e
    by_cases h : e.name = name
    · have hIs : isResponse e = true := by rwa [isResponse, h]
      simp [hIs, h]
    · simp [h]
  -- all that has such a name is a response, and responses do not stand in feedback
  rw [hResponses, filter_descendants hPlain, List.find?_map]
  rfl

/-- A problem is of the same kind whatever the feedback in it is. -/
theorem ofProblem_withFeedback (hPlain : HasPlainFeedback problem)
    (hOther : ∀ e ∈ elementsOf other, isResponse e = false) :
    Kind.ofProblem (problem.withFeedback other) = Kind.ofProblem problem := by
  have hFind {name : String} (hName : "response".toList.isSuffixOf name.toList = true) :
      (problem.withFeedback other).descendants.find? (·.name == name) =
        ((placedResponses problem).find? (·.element.name == name)).map
          fun x => (x.refill other).element := by
    rw [find?_descendants (hasPlainFeedback_withFeedback hOther) hName, placedResponses_withFeedback,
      List.find?_map, Option.map_map]
    rfl
  have hHas (name : String) (hName : "response".toList.isSuffixOf name.toList = true) :
      (problem.withFeedback other).hasDescendant name = problem.hasDescendant name := by
    have hAny (elements : List Element) : elements.any (·.name == name) =
        (elements.find? (·.name == name)).isSome := by
      rw [Bool.eq_iff_iff, List.any_eq_true, List.find?_isSome]
    rw [Element.hasDescendant, Element.hasDescendant, hAny, hAny, hFind hName,
      find?_descendants hPlain hName, Option.isSome_map, Option.isSome_map]
  unfold Kind.ofProblem
  rw [hHas "multiplechoiceresponse" rfl, hFind rfl, find?_descendants hPlain rfl]
  simp only [Kind.responses, List.find?_cons, List.find?_nil, hHas "optionresponse" rfl,
    hHas "stringresponse" rfl, hHas "numericalresponse" rfl, hHas "formularesponse" rfl,
    hHas "coderesponse" rfl]
  cases hChoice : (placedResponses problem).find? (·.element.name == "choiceresponse") with
  | none => rfl
  | some x =>
    have hResponse : isResponse x.element = true :=
      (List.mem_filter.mp (List.mem_of_find?_eq_some hChoice)).2
    -- the first such response decides, and it keeps its groups of boxes
    have hBoxes : ((x.refill other).element.childrenNamed "checkboxgroup").isEmpty =
        (x.element.childrenNamed "checkboxgroup").isEmpty := by
      rw [← Placed.map_element_childrenNamed, ← Placed.map_element_childrenNamed,
        Placed.childrenNamed_refill (isFeedback_of_isResponse hResponse)]
      simp
    rw [Option.map_some, Option.map_some]
    dsimp only
    rw [Kind.ofChoiceResponse, Kind.ofChoiceResponse, hBoxes]

/-- Where no feedback is shown, a quiz is written as it is with any other. -/
theorem problemText_withFeedback (hPlain : HasPlainFeedback problem)
    (hKind : (Kind.ofProblem problem).offers = true)
    (hFree : IsFree ((Kind.ofProblem problem).shown problem))
    (hOther : ∀ e ∈ elementsOf other, isResponse e = false) (displayName : String) :
    problemText (Kind.ofProblem (problem.withFeedback other)) (problem.withFeedback other)
      displayName = problemText (Kind.ofProblem problem) problem displayName := by
  rw [Kind.shown, isFree_append] at hFree
  obtain ⟨hSeats, hDemand⟩ := hFree
  -- a quiz is the lines of its responses and the hints on demand below them
  have hHints : demandHints (problem.withFeedback other) = demandHints problem := by
    rw [demandHints_eq, demandHints_eq, demandElements_withFeedback, hDemand.texts_refill]
  have hLines : (Kind.ofProblem problem).lines (problem.withFeedback other) displayName =
      (Kind.ofProblem problem).lines problem displayName := by
    rw [lines_seats (hasPlainFeedback_withFeedback hOther) hKind, lines_seats hPlain hKind,
      Kind.seats_withFeedback, List.flatMap_map]
    refine List.flatMap_congr fun x hx => ?_
    exact Seat.lines_refill hKind (Kind.isResponse_of_mem_seats hx)
      fun t ht => hSeats t (List.mem_flatMap.mpr ⟨x, hx, ht⟩)
  rw [ofProblem_withFeedback hPlain hOther, problemText_eq, problemText_eq, hLines, hHints]

/-! ## Other feedback, where some is shown -/

section Told

-- Feedback of many letters, so that a text that has it can be told by their number.

variable {n : Nat}

/-- Feedback of one letter over and over. -/
def letters (n : Nat) : List Item := [.text (.ofList (List.replicate n 'x'))]

theorem le_count_letters (n : Nat) : n ≤ (textOf [] (letters n)).count 'x' := by
  simp [letters, textOf, Item.textWithout]

theorem letters_plain (n : Nat) : ∀ e ∈ elementsOf (letters n), isResponse e = false := by
  intro e he
  cases he

/-- How many letters a text is told by. -/
def letterCount (text : String) : Nat := text.toList.count 'x'

theorem letterCount_le_of_mem {text : String} {texts : List String} (sep : String) (h : text ∈ texts) :
    letterCount text ≤ letterCount (sep.intercalate texts) := by
  rw [letterCount, letterCount, String.toList_intercalate]
  exact (Text.sublist_intercalate (List.mem_map_of_mem h)).count_le 'x'

/-- An element with feedback has a text of that many letters. -/
theorem le_letterCount_refill {t : Placed} (h : t.feedback ≠ []) :
    n ≤ letterCount (t.refill (letters n)).element.text :=
  Placed.le_count_text_refill (le_count_letters n) (by decide) h

theorem mem_texts_refill {t : Placed} (hn : 0 < n) (ht : t ∈ elements) (h : t.feedback ≠ []) :
    (t.refill (letters n)).element.text ∈
      texts ((elements.map (Placed.refill (letters n))).map Placed.element) := by
  rw [List.map_map]
  refine List.mem_filter.mpr ⟨List.mem_map_of_mem (List.mem_map_of_mem ht), ?_⟩
  refine decide_eq_true fun hEmpty => ?_
  have hCount := le_letterCount_refill (n := n) h
  rw [hEmpty] at hCount
  exact absurd hCount (Nat.not_le.mpr hn)

variable {x : Seat}

/-- Feedback in the question of a response is told. -/
theorem Seat.told_of_questions (hn : 0 < n) (hResponse : isResponse x.element = true) {t : Placed}
    (ht : t ∈ questions x.toPlaced) (h : t.feedback ≠ []) :
    ∃ text ∈ (x.refill (letters n)).asked (problem.withFeedback (letters n)),
      n ≤ letterCount text := by
  have hMem : (t.refill (letters n)).element.text ∈ ownTexts (x.refill (letters n)).element := by
    show _ ∈ ownTexts (x.toPlaced.refill (letters n)).element
    rw [ownTexts_eq, questions_refill hResponse]
    exact mem_texts_refill hn ht h
  have hOwn : ¬ (x.refill (letters n)).IsShared := fun hIs => List.ne_nil_of_mem hMem hIs.1
  refine ⟨_, ?_, le_letterCount_refill h⟩
  rw [Seat.asked, if_neg hOwn]
  exact hMem

/-- Feedback in what is shown with a response is told. -/
theorem Seat.told_of_shown (hn : 0 < n) (hResponse : isResponse x.element = true) {t : Placed}
    (ht : t ∈ x.shown problem) (h : t.feedback ≠ []) :
    ∃ line ∈ (x.refill (letters n)).lines kind (problem.withFeedback (letters n)),
      n ≤ letterCount line.render := by
  have hAsked (hTold : ∃ text ∈ (x.refill (letters n)).asked (problem.withFeedback (letters n)),
      n ≤ letterCount text) :
      ∃ line ∈ (x.refill (letters n)).lines kind (problem.withFeedback (letters n)),
        n ≤ letterCount line.render := by
    obtain ⟨text, hText, hCount⟩ := hTold
    refine ⟨.prompt text, ?_, Nat.le_trans hCount ?_⟩
    · exact List.mem_append_left _ (List.mem_append_left _ (List.mem_map_of_mem hText))
    · show _ ≤ (text ++ "\n").toList.count 'x'
      rw [String.toList_append, List.count_append]
      exact Nat.le_add_right _ _
  -- the feedback is in a question of the response, in the one of the problem, or in a hint
  rcases List.mem_append.mp ht with ht | hHint
  · rcases List.mem_append.mp ht with hQuestion | hShared
    · exact hAsked (Seat.told_of_questions hn hResponse hQuestion h)
    · by_cases hIs : x.IsShared
      · rw [if_pos hIs] at hShared
        by_cases hStill : (x.refill (letters n)).IsShared
        · refine hAsked ⟨_, ?_, le_letterCount_refill h⟩
          rw [Seat.asked, if_pos hStill, texts_shared_eq, sharedQuestions_withFeedback]
          exact mem_texts_refill hn hShared h
        · -- the response asks a question of its own now, so there is feedback in that
          have hNotFree : ¬ IsFree (questions x.toPlaced) := fun hFree =>
            hStill ((Seat.isShared_refill hResponse hFree).mpr hIs)
          unfold IsFree at hNotFree
          push Not at hNotFree
          obtain ⟨t', ht', h'⟩ := hNotFree
          exact hAsked (Seat.told_of_questions hn hResponse ht' h')
      · rw [if_neg hIs] at hShared
        cases hShared
  · refine ⟨.hint (t.refill (letters n)).element.text, ?_,
      Nat.le_trans (le_letterCount_refill h) ?_⟩
    · refine List.mem_append_right _ (List.mem_map_of_mem ?_)
      show _ ∈ hints (x.toPlaced.refill (letters n)).element
      rw [hints_eq, hintElements_refill hResponse]
      exact mem_texts_refill hn hHint h
    · show _ ≤ ("- [[?]] " ++ (t.refill (letters n)).element.text).toList.count 'x'
      rw [String.toList_append, List.count_append]
      exact Nat.le_add_left _ _

/-- Where feedback is shown, a quiz has the letters of it. -/
theorem Kind.told_of_shown (hn : 0 < n) (hKind : kind.offers = true) {t : Placed}
    (ht : t ∈ kind.shown problem) (h : t.feedback ≠ []) (displayName : String) :
    n ≤ letterCount (problemText kind (problem.withFeedback (letters n)) displayName) := by
  rw [problemText_eq]
  rcases List.mem_append.mp ht with hSeat | hDemand
  · obtain ⟨x, hx, ht⟩ := List.mem_flatMap.mp hSeat
    obtain ⟨line, hLine, hCount⟩ :=
      Seat.told_of_shown hn (Kind.isResponse_of_mem_seats hx) ht h
    refine Nat.le_trans hCount (Nat.le_trans (letterCount_le_of_mem "\n" (List.mem_map_of_mem ?_))
      (letterCount_le_of_mem "\n" List.mem_cons_self))
    rw [lines_seats (hasPlainFeedback_withFeedback (letters_plain n)) hKind,
      Kind.seats_withFeedback, List.flatMap_map]
    exact List.mem_flatMap.mpr ⟨x, hx, hLine⟩
  · have hHint : (t.refill (letters n)).element.text ∈
        demandHints (problem.withFeedback (letters n)) := by
      rw [demandHints_eq, demandElements_withFeedback]
      exact mem_texts_refill hn hDemand h
    refine Nat.le_trans (le_letterCount_refill h) (Nat.le_trans ?_
      (letterCount_le_of_mem "\n" (List.mem_cons_of_mem _ (List.mem_map_of_mem hHint))))
    show _ ≤ ("- [[?]] " ++ (t.refill (letters n)).element.text).toList.count 'x'
    rw [String.toList_append, List.count_append]
    exact Nat.le_add_left _ _

end Told

/-- Whether two problems differ in nothing but the feedback in them. -/
def DifferInFeedback (problem problem' : Element) : Prop :=
  problem'.withFeedback [] = problem.withFeedback []

theorem differInFeedback_withFeedback : DifferInFeedback problem (problem.withFeedback other) := by
  have hItem : (problem.withFeedback other).item.refill [] false = problem.item.refill [] false :=
    problem.item.refill_refill false
  obtain ⟨-, -, hContent⟩ := Item.element.inj hItem
  exact congrArg (fun content => { problem with content }) hContent

/--
**When a quiz tells nothing of the feedback.** A quiz with answers to choose from is the same for every
problem that differs in its feedback only exactly if no feedback stands in a question or hint that is
written: of a response that is, of the problem if it is written with one of them, or on demand.
-/
theorem feedback_untold_iff
    (hKind : Kind.ofProblem problem ∈ [Kind.multipleChoice, .choice, .selection])
    (hPlain : HasPlainFeedback problem) (displayName : String) :
    (∀ problem', DifferInFeedback problem problem' → HasPlainFeedback problem' →
      problemText (Kind.ofProblem problem') problem' displayName =
        problemText (Kind.ofProblem problem) problem displayName) ↔
    ∀ t ∈ (Kind.ofProblem problem).shown problem, t.feedback = [] := by
  have hOffers : (Kind.ofProblem problem).offers = true := by
    revert hKind
    cases Kind.ofProblem problem <;> decide
  have hNone : ∀ e ∈ elementsOf [], isResponse e = false := fun e he => by cases he
  constructor
  · intro hSame t ht
    by_contra hSome
    -- feedback of more letters than there are in the quiz
    let n := letterCount (problemText (Kind.ofProblem problem) problem displayName) + 1
    have hOther := hSame (problem.withFeedback (letters n)) differInFeedback_withFeedback
      (hasPlainFeedback_withFeedback (letters_plain n))
    have hTold : n ≤ _ := Kind.told_of_shown (Nat.succ_pos _) hOffers ht hSome displayName
    rw [ofProblem_withFeedback hPlain (letters_plain n)] at hOther
    rw [hOther] at hTold
    exact absurd hTold (Nat.not_succ_le_self _)
  · intro hFree problem' hDiffer hPlain'
    -- both are as the problem without any feedback is
    have hKinds : Kind.ofProblem problem' = Kind.ofProblem problem := by
      rw [← ofProblem_withFeedback hPlain' hNone, ← ofProblem_withFeedback hPlain hNone, hDiffer]
    have hFree' : IsFree ((Kind.ofProblem problem').shown problem') := by
      rw [hKinds, ← Kind.isFree_shown_withFeedback, hDiffer, Kind.isFree_shown_withFeedback]
      exact hFree
    have hText' := problemText_withFeedback hPlain' (hKinds ▸ hOffers) hFree' hNone displayName
    rw [← hText', hDiffer, problemText_withFeedback hPlain hOffers hFree hNone]

/-- A choice and an entry of a list with feedback, and a question and a hint beside them: the quiz is
the same with other feedback. -/
theorem feedback_beside_question :
    let problem (first second : List Item) : Element :=
      ⟨"problem", [], [.element "p" [] [.text "Q"], .element "multiplechoiceresponse" []
        [.element "choicegroup" [] [.element "choice" [("correct", "true")]
          [.text "A", .element "choicehint" [] first, .text " or B"]],
          .element "hint" [] [.text "H"]],
        .element "optionresponse" [] [.element "optioninput" [] [.element "option" []
          [.element "b" [] [.element "optionhint" [] second]]]]]⟩
    let plain := problem [.text "right"] []
    let rich := problem [.element "i" [] [.text "well done"]] [.text "no"]
    problemText (Kind.ofProblem rich) rich "" = problemText (Kind.ofProblem plain) plain "" := by
  intro problem plain rich
  refine (feedback_untold_iff ?_ ?_ "").mpr ?_ rich rfl ?_
  · decide +kernel
  · decide +kernel
  · show IsFree _
    decide +kernel
  · decide +kernel

/-- A response inside the question of its problem: the feedback to a choice is part of the question. -/
theorem feedback_in_question :
    let problem (feedback : String) : Element := ⟨"problem", [], [.element "p" []
      [.text "Q", .element "multiplechoiceresponse" [] [.element "choicegroup" []
        [.element "choice" [("correct", "true")]
          [.text " A", .element "choicehint" [] [.text feedback]]]]]]⟩
    DifferInFeedback (problem " yes") (problem " no") ∧
      Kind.ofProblem (problem " yes") = .multipleChoice ∧
      Kind.ofProblem (problem " no") = .multipleChoice ∧
      problemText .multipleChoice (problem " yes") "" = "Q A yes\n\n- [[X]] A" ∧
      problemText .multipleChoice (problem " no") "" = "Q A no\n\n- [[X]] A" := by
  refine ⟨rfl, ?_⟩
  decide +kernel

end Quiz

end Coursebook
