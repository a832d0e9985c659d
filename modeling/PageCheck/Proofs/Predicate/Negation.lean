import PageCheck.Proofs.Predicate.Selecting

/-!
# Negations and what is not there

On an element a predicate and its negation have opposite answers, and two negations undo each other.
On a page this holds only where the selector points to something: a predicate about an element that
is not there does not hold, and neither does its negation.
-/

namespace PageCheck

set_option autoImplicit false

open Html (Document Node)

namespace Selector.SelectorList

variable {list : SelectorList} {d : Document} {p : Html.Place}

theorem IsFirst.mem_places (h : list.IsFirst d p) : p ∈ d.places := by
  obtain ⟨before, after, hPlaces, _, _⟩ := h
  exact hPlaces ▸ List.mem_append_right before List.mem_cons_self

theorem exists_isFirst_iff :
    (∃ p, list.IsFirst d p) ↔ ∃ q ∈ d.places, list.holds false q = true := by
  constructor
  · rintro ⟨p, hFirst⟩
    have hPlace := hFirst.mem_places
    obtain ⟨_, _, _, _, hHolds⟩ := hFirst
    exact ⟨p, hPlace, hHolds⟩
  · rintro ⟨q, hPlace, hHolds⟩
    cases hFirst : list.first? d with
    | none =>
      rw [first?_eq_none_iff.mp hFirst q hPlace] at hHolds
      cases hHolds
    | some p => exact ⟨p, first?_eq_some_iff.mp hFirst⟩

end Selector.SelectorList

namespace Predicate

variable {selector : String} {list : Selector.SelectorList} {d : Document}

/-- The selector is read and holds somewhere in the document. -/
def Selects (selector : String) (d : Document) : Prop :=
  ∃ list, Selector.read selector = .ok list ∧ ∃ place ∈ d.places, list.holds false place = true

theorem selects_iff (hRead : Selector.read selector = .ok list) :
    Selects selector d ↔ ∃ place ∈ d.places, list.holds false place = true := by
  simp only [Selects, hRead, Except.ok.injEq, exists_eq_left']

theorem not_selects_iff (hRead : Selector.read selector = .ok list) :
    ¬ Selects selector d ↔ ∀ place ∈ d.places, list.holds false place = false := by
  simp only [selects_iff hRead, not_exists, not_and, Bool.not_eq_true]

theorem not_selects_of_error {fault : Selector.Fault} (hRead : Selector.read selector = .error fault) :
    ¬ Selects selector d := by
  rintro ⟨list, hOk, _⟩
  cases hRead.symm.trans hOk

instance (selector : String) (d : Document) : Decidable (Selects selector d) :=
  match hRead : Selector.read selector with
  | .ok _ => decidable_of_iff _ (selects_iff hRead).symm
  | .error _ => isFalse (not_selects_of_error hRead)

theorem evaluateElement_double (p : Predicate) (element : Node) :
    (negation (negation p)).evaluateElement element = p.evaluateElement element := by
  rw [evaluateElement, evaluateElement]
  cases p.evaluateElement element with
  | ok holds => exact congrArg Except.ok (Bool.not_not holds)
  | error e => rfl

theorem evaluateElement_opposite {p : Predicate} (h : p.IsElement) (element : Node) :
    ∃ holds, p.evaluateElement element = .ok holds ∧
      (negation p).evaluateElement element = .ok (!holds) := by
  obtain ⟨holds, hHolds⟩ := evaluateElement_of_isElement h element
  refine ⟨holds, hHolds, ?_⟩
  rw [evaluateElement, hHolds]
  rfl

/-- The evaluation of a page predicate uses no more of its inner predicate than its answers. -/
theorem evaluateSite_congr {p q : Predicate}
    (h : ∀ element, p.evaluateElement element = q.evaluateElement element) (d : Document) :
    (elementMatches selector p).evaluateSite d = (elementMatches selector q).evaluateSite d := by
  unfold evaluateSite
  simp only [h]

/-- A predicate and its negation fail alike over a bad selector and are both false where the selector
holds nowhere. Everywhere else just one of them is true. -/
theorem evaluateSite_negation (d : Document) (selector : String) :
    (∀ element : Predicate, element.IsElement →
      let plain := (elementMatches selector element).evaluateSite d
      let negated := (elementMatches selector (negation element)).evaluateSite d
      (∀ fault, Selector.read selector = .error fault → fault.sort ≠ .number →
        let e := EvaluationError.selector selector fault
        plain = ⟨.error e, []⟩ ∧ negated = ⟨.error e, []⟩ ∧ e.isInvalidSelector = true ∧
          e.message = EvaluationError.invalid selector (fault.message selector)) ∧
      ∀ list, Selector.read selector = .ok list →
        ((∀ q ∈ d.places, list.holds false q = false) →
          plain = ⟨.ok false, [⟨.warning, "Could not find element " ++ selector⟩]⟩ ∧
          negated = ⟨.ok false, [⟨.warning, "Could not find element " ++ selector⟩]⟩) ∧
        ((∃ q ∈ d.places, list.holds false q = true) →
          ∃ holds, plain = ⟨.ok holds, []⟩ ∧ negated = ⟨.ok (!holds), []⟩)) ∧
    (∀ element : Predicate, (elementMatches selector (negation (negation element))).evaluateSite d =
      (elementMatches selector element).evaluateSite d) ∧
    ∀ list p, Selector.read selector = .ok list → list.IsFirst d p → ∀ content k,
      ∃ holds, (elementMatches selector ((contentMatches content).negate k)).evaluateSite d =
          ⟨.ok holds, []⟩ ∧
        (holds = true ↔ Xor (p.node.text = content) (Odd k)) := by
  refine ⟨?_, ?_, ?_⟩
  · intro element hElement plain negated
    constructor
    · intro fault hRead hSort
      exact ⟨evaluateSite_of_error hRead, evaluateSite_of_error hRead, bne_iff_ne.mpr hSort,
        EvaluationError.message_of_sort hSort⟩
    · intro list hRead
      constructor
      · intro hNone
        exact ⟨evaluateSite_of_none hRead hNone, evaluateSite_of_none hRead hNone⟩
      · intro hSome
        obtain ⟨p, hFirst⟩ := Selector.SelectorList.exists_isFirst_iff.mpr hSome
        obtain ⟨holds, hPlain, hNegated⟩ := evaluateElement_opposite hElement p.node
        exact ⟨holds, hPlain ▸ evaluateSite_of_first hRead hFirst,
          hNegated ▸ evaluateSite_of_first hRead hFirst⟩
  · intro element
    exact evaluateSite_congr (evaluateElement_double element) d
  · intro list p hRead hFirst content k
    obtain ⟨holds, hElement, hHolds⟩ := evaluateElement_negate content k p.node
    exact ⟨holds, hElement ▸ evaluateSite_of_first hRead hFirst, hHolds⟩

/-- The page has a paragraph but nothing bold, and the last selector is not closed. -/
theorem evaluateSite_negation_paragraph :
    let d : Document := ⟨[.element "p" [] [.string .plain "x"]]⟩
    let plain (selector : String) := (elementMatches selector (contentMatches "x")).evaluateSite d
    let negated (selector : String) :=
      (elementMatches selector (negation (contentMatches "x"))).evaluateSite d
    (plain "p" = ⟨.ok true, []⟩ ∧ negated "p" = ⟨.ok false, []⟩) ∧
    (plain "b" = ⟨.ok false, [⟨.warning, "Could not find element b"⟩]⟩ ∧ negated "b" = plain "b") ∧
    ∃ e : EvaluationError, e.isInvalidSelector = true ∧
      plain "[" = ⟨.error e, []⟩ ∧ negated "[" = plain "[" := by
  intro d plain negated
  have hElement : (contentMatches "x").IsElement := trivial
  have hParagraph : Selects "p" d := by decide +kernel
  have hTexts : ∀ place ∈ d.places, place.node.text = "x" := by decide
  have hBold : (Selector.read "b").isOk = true ∧ ¬ Selects "b" d := by decide +kernel
  have hOpen : (match Selector.read "[" with
    | .ok _ => false
    | .error fault => fault.sort != .number) = true := by decide +kernel
  refine ⟨?_, ?_, ?_⟩
  · obtain ⟨list, hRead, hSome⟩ := hParagraph
    obtain ⟨p, hFirst⟩ := Selector.SelectorList.exists_isFirst_iff.mpr hSome
    obtain ⟨hPair, _, hContent⟩ := evaluateSite_negation d "p"
    obtain ⟨holds, hPlain, hNegated⟩ := ((hPair _ hElement).2 list hRead).2 hSome
    obtain ⟨answer, hAnswer, hHolds⟩ := hContent list p hRead hFirst "x" 0
    cases hPlain.symm.trans hAnswer
    cases hHolds.mpr (Or.inl ⟨hTexts p hFirst.mem_places, by decide⟩)
    exact ⟨hPlain, hNegated⟩
  · cases hRead : Selector.read "b" with
    | error fault =>
      rw [hRead] at hBold
      cases hBold.1
    | ok list =>
      have hNone := (not_selects_iff hRead).mp hBold.2
      obtain ⟨hPlain, hNegated⟩ := (((evaluateSite_negation d "b").1 _ hElement).2 list hRead).1 hNone
      exact ⟨hPlain, hNegated.trans hPlain.symm⟩
  · split at hOpen
    · cases hOpen
    · rename_i fault hRead
      obtain ⟨hPlain, hNegated, hBlame, _⟩ :=
        ((evaluateSite_negation d "[").1 _ hElement).1 fault hRead (bne_iff_ne.mp hOpen)
      exact ⟨_, hBlame, hPlain, hNegated.trans hPlain.symm⟩

end Predicate

end PageCheck
