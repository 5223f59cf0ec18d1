import Coursebook.Course.Reference
import Coursebook.Proofs.Text.Split
import Coursebook.Xml.NameChar
import Mathlib.Data.List.Basic
import Mathlib.Logic.Relation

/-!
# Coursebook — the order of references

The references of a vertical are found in one pass over its children for each kind. Where the kinds
are plain names and none of them comes twice, what the passes give is a stable sort: the children that
stand for components, by the place of their name among the kinds. All other children are passed over,
and where those of two kinds stand relative to each other makes no difference.

* `flatMap_filter_eq_mergeSort` — passes over a list, one for each key, sort it.
* `Rearrangement` — a change to the children that no pass sees; `reflTransGen_rearrangement_iff` tells
  what such changes can come to.
* `collect_sorted` — what is collected, and what it does not depend on.
-/

namespace Coursebook.Xml

/-- Whether a text is a name without a colon in it. -/
def isName (s : String) : Bool := s.toList.head?.any isNameStart && s.toList.all isNameChar

/-- A path that is a name leads to the children which have that name. -/
theorem Element.childrenAt_of_isName (e : Element) {name : String} (h : isName name = true) :
    e.childrenAt name = e.childrenNamed name := by
  obtain ⟨hStart, hChars⟩ := Bool.and_eq_true_iff.mp h
  have hSlash : '/' ∉ name.toList := fun hIn =>
    absurd (List.all_eq_true.mp hChars _ hIn) (by decide)
  have hSome : name ≠ "" := by
    rintro rfl
    exact absurd hStart (by decide)
  have hDot : name ≠ "." := by
    rintro rfl
    exact absurd hStart (by decide)
  have hStar : name ≠ "*" := by
    rintro rfl
    exact absurd hStart (by decide)
  rw [childrenAt, if_neg hSome, Text.splitAll_of_not_mem hSlash, List.map_singleton,
    if_neg (by simpa using hSome), String.ofList_toList, List.foldl_cons, List.foldl_nil,
    List.flatMap_singleton, step, if_neg hDot, if_neg hStar]

end Coursebook.Xml

namespace Coursebook.Course

open Coursebook.Xml

/-! ## Passes over a list -/

section

variable {α : Type} {key : α → String} {keys : List String} {xs : List α}

/-- There is one place at most where a list comes apart into what satisfies `p` and what does not. -/
theorem append_inj_of_forall {p : α → Bool} {l₁ l₂ m₁ m₂ : List α} (h : l₁ ++ l₂ = m₁ ++ m₂)
    (hl₁ : ∀ a ∈ l₁, p a = true) (hl₂ : ∀ a ∈ l₂, p a = false) (hm₁ : ∀ a ∈ m₁, p a = true)
    (hm₂ : ∀ a ∈ m₂, p a = false) : l₁ = m₁ ∧ l₂ = m₂ := by
  have hFilter : ∀ {s t : List α}, (∀ a ∈ s, p a = true) → (∀ a ∈ t, p a = false) →
      (s ++ t).filter p = s := by
    intro s t hs ht
    rw [List.filter_append, List.filter_eq_self.mpr hs,
      List.filter_eq_nil_iff.mpr fun a ha => Bool.eq_false_iff.mp (ht a ha), List.append_nil]
  have hLeft : l₁ = m₁ := by rw [← hFilter hl₁ hl₂, h, hFilter hm₁ hm₂]
  exact ⟨hLeft, List.append_cancel_left (hLeft ▸ h)⟩

/-- Where a key stands in a list without repetition, those before it have smaller places and those
from there on have not. -/
theorem idxOf_lt_idxOf_iff {before after : List String} {k : String}
    (h : (before ++ k :: after).Nodup) :
    (∀ j ∈ before, (before ++ k :: after).idxOf j < (before ++ k :: after).idxOf k) ∧
      ∀ j ∈ k :: after, (before ++ k :: after).idxOf k ≤ (before ++ k :: after).idxOf j := by
  have hApart := (List.nodup_append.mp h).2.2
  have hNot : ∀ j ∈ k :: after, j ∉ before := fun j hj hBefore => hApart j hBefore j hj rfl
  have hPlace : (before ++ k :: after).idxOf k = before.length := by
    rw [List.idxOf_append_of_notMem (hNot k List.mem_cons_self), List.idxOf_cons_self, Nat.add_zero]
  refine ⟨fun j hj => ?_, fun j hj => ?_⟩
  · rw [hPlace, List.idxOf_append_of_mem hj]
    exact List.idxOf_lt_length_of_mem hj
  · rw [hPlace, List.idxOf_append_of_notMem (hNot j hj)]
    exact Nat.le_add_right _ _

/-- A member that no pass takes is passed over. -/
theorem flatMap_filter_cons_of_notMem {x : α} (hx : key x ∉ keys) (xs : List α) :
    (keys.flatMap fun k => (x :: xs).filter (key · == k)) =
      keys.flatMap fun k => xs.filter (key · == k) := by
  refine List.flatMap_congr fun k hk => ?_
  exact List.filter_cons_of_neg (by simpa using fun hSame : key x = k => hx (hSame ▸ hk))

/-- The first member of a list comes first in the pass for its key. -/
theorem flatMap_filter_cons {before after : List String} {x : α}
    (h : (before ++ key x :: after).Nodup) (xs : List α) :
    ((before ++ key x :: after).flatMap fun k => (x :: xs).filter (key · == k)) =
      (before.flatMap fun k => xs.filter (key · == k)) ++
        x :: (key x :: after).flatMap fun k => xs.filter (key · == k) := by
  obtain ⟨-, hRest, hApart⟩ := List.nodup_append.mp h
  have hBefore : key x ∉ before := fun hIn => hApart _ hIn _ List.mem_cons_self rfl
  have hAfter : key x ∉ after := (List.nodup_cons.mp hRest).1
  rw [List.flatMap_append, flatMap_filter_cons_of_notMem hBefore, List.flatMap_cons,
    flatMap_filter_cons_of_notMem hAfter, List.flatMap_cons,
    List.filter_cons_of_pos (p := (key · == key x)) (beq_self_eq_true (key x)), List.cons_append]

/-- One pass over a list for each of some keys, in which the members with that key are taken, gives a
stable sort of the members with any of the keys. -/
theorem flatMap_filter_eq_mergeSort (hKeys : keys.Nodup) (key : α → String) (xs : List α) :
    (keys.flatMap fun k => xs.filter (key · == k)) =
      (xs.filter fun x => key x ∈ keys).mergeSort fun a b =>
        keys.idxOf (key a) ≤ keys.idxOf (key b) := by
  let le (a b : α) : Bool := keys.idxOf (key a) ≤ keys.idxOf (key b)
  have hTrans : ∀ a b c, le a b → le b c → le a c := by
    simp only [le, decide_eq_true_eq]
    exact fun _ _ _ => Nat.le_trans
  have hTotal : ∀ a b, le a b || le b a := by
    simp only [le, Bool.or_eq_true, decide_eq_true_eq]
    exact fun _ _ => Nat.le_total _ _
  induction xs with
  | nil => simp
  | cons x xs ih =>
    by_cases hx : key x ∈ keys
    case neg =>
      rw [flatMap_filter_cons_of_notMem hx, List.filter_cons_of_neg (by simpa using hx), ih]
    case pos =>
      rw [List.filter_cons_of_pos (by simpa using hx)]
      obtain ⟨l₁, l₂, hCons, hWithout, hLess⟩ :=
        List.mergeSort_cons hTrans hTotal x (xs.filter fun x => key x ∈ keys)
      have hSorted := List.pairwise_mergeSort hTrans hTotal (x :: xs.filter fun x => key x ∈ keys)
      rw [hCons, List.pairwise_append, List.pairwise_cons] at hSorted
      obtain ⟨before, after, hSplit⟩ := List.append_of_mem hx
      obtain ⟨hBefore, hAfter⟩ := idxOf_lt_idxOf_iff (hSplit ▸ hKeys)
      rw [← hSplit] at hBefore hAfter
      let pass (k : String) : List α := xs.filter (key · == k)
      have hPass : ∀ ks : List String, ∀ a ∈ ks.flatMap pass, key a ∈ ks := by
        intro ks a ha
        obtain ⟨k, hk, hIn⟩ := List.mem_flatMap.mp ha
        have hKey : key a = k := by simpa using (List.mem_filter.mp hIn).2
        rwa [hKey]
      -- without `x`, the sort and the passes come apart at the same place, and there `x` is put
      have hSame : l₁ ++ l₂ = before.flatMap pass ++ (key x :: after).flatMap pass := by
        rw [← hWithout, ← ih, hSplit, List.flatMap_append]
      obtain ⟨rfl, rfl⟩ : l₁ = before.flatMap pass ∧ l₂ = (key x :: after).flatMap pass := by
        refine append_inj_of_forall (p := fun a => !le x a) hSame hLess ?_ ?_ ?_
        · exact fun a ha => by simpa using hSorted.2.1.1 a ha
        · exact fun a ha => by simpa [le] using hBefore _ (hPass before a ha)
        · exact fun a ha => by simpa [le] using hAfter _ (hPass (key x :: after) a ha)
      calc (keys.flatMap fun k => (x :: xs).filter (key · == k))
        _ = before.flatMap pass ++ x :: (key x :: after).flatMap pass := by
          rw [hSplit]
          exact flatMap_filter_cons (hSplit ▸ hKeys) xs
        _ = (x :: xs.filter fun x => key x ∈ keys).mergeSort le := hCons.symm

end

/-! ## Changes that no pass sees -/

section

variable {kinds : List String} {cs cs' : List Element} {a b c : Element}

/-- A change to the children of a vertical that leaves its components in their order: an element that
stands for none is put in or taken out, or two neighbours change places that do not stand for
components of one kind. -/
inductive Rearrangement (kinds : List String) : List Element → List Element → Prop
  | insert (before after : List Element) {c : Element} (h : c.name ∉ kinds) :
      Rearrangement kinds (before ++ after) (before ++ c :: after)
  | remove (before after : List Element) {c : Element} (h : c.name ∉ kinds) :
      Rearrangement kinds (before ++ c :: after) (before ++ after)
  | swap (before after : List Element) {a b : Element} (h : a.name ∈ kinds → a.name ≠ b.name) :
      Rearrangement kinds (before ++ a :: b :: after) (before ++ b :: a :: after)

/-- What the pass for a kind takes is not changed. -/
theorem Rearrangement.filter_eq {kind : String} (h : Rearrangement kinds cs cs')
    (hKind : kind ∈ kinds) : cs'.filter (·.name == kind) = cs.filter (·.name == kind) := by
  have hPassed : ∀ before after {c : Element}, c.name ∉ kinds →
      (before ++ c :: after).filter (·.name == kind) = (before ++ after).filter (·.name == kind) := by
    intro before after c hOther
    have hNot : (c.name == kind) = false :=
      beq_eq_false_iff_ne.mpr fun hSame => hOther (hSame ▸ hKind)
    simp only [List.filter_append, List.filter_cons, hNot, Bool.false_eq_true, if_false]
  cases h with
  | insert before after hOther => exact hPassed before after hOther
  | remove before after hOther => exact (hPassed before after hOther).symm
  | @swap before after a b hApart =>
    by_cases ha : a.name = kind
    · have hNot : (b.name == kind) = false :=
        beq_eq_false_iff_ne.mpr fun hb => hApart (ha ▸ hKind) (ha.trans hb.symm)
      simp only [List.filter_append, List.filter_cons, hNot, Bool.false_eq_true, if_false]
    · simp only [List.filter_append, List.filter_cons, beq_eq_false_iff_ne.mpr ha,
        Bool.false_eq_true, if_false]

theorem filter_eq_of_reflTransGen {kind : String}
    (h : Relation.ReflTransGen (Rearrangement kinds) cs cs') (hKind : kind ∈ kinds) :
    cs'.filter (·.name == kind) = cs.filter (·.name == kind) := by
  induction h with
  | refl => rfl
  | tail _ hStep ih => rw [hStep.filter_eq hKind, ih]

instance : Std.Symm (Rearrangement kinds) where
  symm _ _ h := by
    cases h with
    | insert before after hOther => exact .remove before after hOther
    | remove before after hOther => exact .insert before after hOther
    | swap before after hApart =>
      exact .swap before after fun hb hSame => hApart (hSame ▸ hb) hSame.symm

theorem Rearrangement.cons (c : Element) (h : Rearrangement kinds cs cs') :
    Rearrangement kinds (c :: cs) (c :: cs') := by
  cases h with
  | insert before after hOther => exact .insert (c :: before) after hOther
  | remove before after hOther => exact .remove (c :: before) after hOther
  | swap before after hApart => exact .swap (c :: before) after hApart

theorem reflTransGen_cons (c : Element)
    (h : Relation.ReflTransGen (Rearrangement kinds) cs cs') :
    Relation.ReflTransGen (Rearrangement kinds) (c :: cs) (c :: cs') :=
  Relation.ReflTransGen.lift (c :: ·) (fun _ _ => Rearrangement.cons c) _ _ h

/-- An element is moved behind others that it need not come before. -/
theorem reflTransGen_move {before : List Element}
    (h : ∀ b ∈ before, c.name ∈ kinds → c.name ≠ b.name) (after : List Element) :
    Relation.ReflTransGen (Rearrangement kinds) (c :: (before ++ after)) (before ++ c :: after) := by
  induction before with
  | nil => exact .refl
  | cons b before ih =>
    obtain ⟨hb, hRest⟩ := List.forall_mem_cons.mp h
    exact .head (.swap [] (before ++ after) hb) (reflTransGen_cons b (ih hRest))

/-- The children can be put in the order in which the passes take them, and the others be left out. -/
theorem reflTransGen_passes (hKinds : kinds.Nodup) (cs : List Element) :
    Relation.ReflTransGen (Rearrangement kinds) cs
      (kinds.flatMap fun kind => cs.filter (·.name == kind)) := by
  induction cs with
  | nil =>
    have hNone : (kinds.flatMap fun kind => ([] : List Element).filter (·.name == kind)) = [] := by
      simp
    rw [hNone]
  | cons c cs ih =>
    by_cases hc : c.name ∈ kinds
    case neg =>
      rw [flatMap_filter_cons_of_notMem hc]
      exact .head (.remove [] cs hc) ih
    case pos =>
      -- the others are put in order first; then `c` has to get past what the passes before its own take
      obtain ⟨before, after, rfl⟩ := List.append_of_mem hc
      rw [flatMap_filter_cons hKinds]
      rw [List.flatMap_append] at ih
      refine (reflTransGen_cons c ih).trans (reflTransGen_move (fun b hb _ hSame => ?_) _)
      obtain ⟨kind, hKind, hIn⟩ := List.mem_flatMap.mp hb
      have hName : b.name = kind := by simpa using (List.mem_filter.mp hIn).2
      exact (List.nodup_append.mp hKinds).2.2 kind hKind c.name List.mem_cons_self
        (hName.symm.trans hSame.symm)

/-- The changes come to this: of each kind there are the same children in the same order. -/
theorem reflTransGen_rearrangement_iff (hKinds : kinds.Nodup) :
    Relation.ReflTransGen (Rearrangement kinds) cs cs' ↔
      ∀ kind ∈ kinds, cs'.filter (·.name == kind) = cs.filter (·.name == kind) := by
  refine ⟨fun h kind hKind => filter_eq_of_reflTransGen h hKind, fun h => ?_⟩
  have hBack := symm (reflTransGen_passes hKinds cs')
  rw [List.flatMap_congr h] at hBack
  exact (reflTransGen_passes hKinds cs).trans hBack

end

/-! ## What is collected -/

section

variable {kinds : List String}

/-- Each pass takes the children with the name of the kind, and refers to them by that name. -/
theorem collect_of_isName (hNames : ∀ kind ∈ kinds, isName kind = true ∧ Text.lower kind = kind)
    (e : Element) :
    collect kinds e = (kinds.flatMap fun kind => e.children.filter (·.name == kind)).map
      fun c => Reference.ofElement c.name c := by
  rw [collect, List.map_flatMap]
  refine List.flatMap_congr fun kind hKind => ?_
  obtain ⟨hName, hLower⟩ := hNames kind hKind
  rw [hLower, e.childrenAt_of_isName hName, Element.childrenNamed]
  refine List.map_congr_left fun c hc => ?_
  have hSame : c.name = kind := by simpa using (List.mem_filter.mp hc).2
  rw [hSame]

/-- Of kinds that are names in lower case, none of them twice, the references are those of the
children with one of these names, each under its name, in the order of a stable sort by the place of
the name. Other children may come and go, and those of different kinds be reordered. -/
theorem collect_sorted (hKinds : kinds.Nodup)
    (hNames : ∀ kind ∈ kinds, isName kind = true ∧ Text.lower kind = kind) (e : Element) :
    (collect kinds e = ((e.children.filter fun c => c.name ∈ kinds).mergeSort fun a b =>
        kinds.idxOf a.name ≤ kinds.idxOf b.name).map fun c => Reference.ofElement c.name c) ∧
      ∀ e' : Element, Relation.ReflTransGen (Rearrangement kinds) e.children e'.children →
        collect kinds e' = collect kinds e := by
  refine ⟨?_, fun e' hChanges => ?_⟩
  · rw [collect_of_isName hNames, flatMap_filter_eq_mergeSort hKinds Element.name]
  · rw [collect_of_isName hNames, collect_of_isName hNames,
      List.flatMap_congr fun kind hKind => filter_eq_of_reflTransGen hChanges hKind]

/-- Two problems and two pages, with a note between them. -/
def mixedVertical : Element where
  name := "vertical"
  content := [.element "problem" [("url_name", "p1")] [], .element "html" [("url_name", "h1")] [],
    .text "and", .element "note" [] [], .element "problem" [("url", "p2")] [],
    .element "html" [("filename", "h2"), ("display_name", "End")] []]

/-- The same components in another order of the two kinds, without the note. -/
def tidyVertical : Element where
  name := "vertical"
  content := [.element "html" [("url_name", "h1")] [], .element "problem" [("url_name", "p1")] [],
    .element "problem" [("url", "p2")] [],
    .element "html" [("filename", "h2"), ("display_name", "End")] []]

theorem collect_mixedVertical :
    (["html", "problem"].Nodup ∧
        (∀ kind ∈ ["html", "problem"], isName kind = true ∧ Text.lower kind = kind) ∧
        Relation.ReflTransGen (Rearrangement ["html", "problem"]) mixedVertical.children
          tidyVertical.children) ∧
      collect ["html", "problem"] mixedVertical =
        [⟨"html", "h1", none⟩, ⟨"html", "h2", some "End"⟩, ⟨"problem", "p1", none⟩,
          ⟨"problem", "p2", none⟩] ∧
      collect ["html", "problem"] tidyVertical = collect ["html", "problem"] mixedVertical := by
  have hKinds : ["html", "problem"].Nodup := by decide
  have hNames : ∀ kind ∈ ["html", "problem"], isName kind = true ∧ Text.lower kind = kind := by decide
  have hChanges : Relation.ReflTransGen (Rearrangement ["html", "problem"]) mixedVertical.children
      tidyVertical.children :=
    .head (.swap [] _ (by decide)) (.head (.remove [_, _] _ (by decide)) .refl)
  obtain ⟨hSorted, hSame⟩ := collect_sorted hKinds hNames mixedVertical
  refine ⟨⟨hKinds, hNames, hChanges⟩, ?_, hSame tidyVertical hChanges⟩
  rw [hSorted, ← flatMap_filter_eq_mergeSort hKinds Element.name]
  decide

end

end Coursebook.Course
