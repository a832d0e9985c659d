import PageCheck.Proofs.Predicate.Negation
import PageCheck.Proofs.Predicate.Reading
import PageCheck.Proofs.Selector.Run

/-!
# Predicates that stand where others belong

A tree may hold page predicates where predicates of elements belong, and the other way round. The
evaluation comes upon such a node only on its way to the innermost predicate, and only if there is an
element to judge. What is read from a text holds no such node.
-/

namespace PageCheck

set_option autoImplicit false

open Html (Document Node)

namespace Predicate

/-- The predicate is one of a page, whatever stands in it. -/
def HasSelector : Predicate → Prop
  | elementMatches _ _ => True
  | _ => False

/-- How the constructor form of a predicate begins. -/
def heading : Predicate → String
  | contentMatches _ => "ContentMatches(content="
  | negation _ => "Not(sub_predicate="
  | elementMatches _ _ => "ElementMatches(selector="

theorem exists_outline_eq (p : Predicate) : ∃ rest, p.outline = p.heading ++ rest := by
  cases p with
  | contentMatches content =>
    have hText : (contentMatches content).outline =
      "ContentMatches(content=" ++ Text.quoted content ++ ")" := rfl
    exact ⟨Text.quoted content ++ ")", hText.trans String.append_assoc⟩
  | negation sub =>
    have hText : (negation sub).outline = "Not(sub_predicate=" ++ sub.outline ++ ")" := rfl
    exact ⟨sub.outline ++ ")", hText.trans String.append_assoc⟩
  | elementMatches selector element =>
    have hText : (elementMatches selector element).outline = "ElementMatches(selector=" ++
      Text.quoted selector ++ ", element_predicate=" ++ element.outline ++ ")" := rfl
    refine ⟨Text.quoted selector ++ ", element_predicate=" ++ element.outline ++ ")", hText.trans ?_⟩
    simp only [String.append_assoc]
    rfl

theorem length_heading_le (p : Predicate) : p.heading.toList.length ≤ outlineLimit := by
  have hLengths : "ContentMatches(content=".toList.length ≤ outlineLimit ∧
      "Not(sub_predicate=".toList.length ≤ outlineLimit ∧
      "ElementMatches(selector=".toList.length ≤ outlineLimit := by decide
  cases p with
  | contentMatches content => exact hLengths.1
  | negation sub => exact hLengths.2.1
  | elementMatches selector element => exact hLengths.2.2

/-- The cut leaves the beginning of a long form as it is. -/
theorem heading_prefix_shortOutline (p : Predicate) : p.heading.toList <+: p.shortOutline.toList := by
  obtain ⟨rest, hOutline⟩ := exists_outline_eq p
  have hPrefix : p.heading.toList <+: p.outline.toList := by
    rw [hOutline, String.toList_append]
    exact List.prefix_append _ _
  unfold shortOutline
  dsimp only
  split
  · exact hPrefix
  · have hCut : p.heading.toList <+: p.outline.toList.take outlineLimit :=
      List.prefix_take_iff.mpr ⟨hPrefix, length_heading_le p⟩
    rw [String.toList_append, String.toList_ofList]
    exact hCut.trans (List.prefix_append _ _)

/-- Judging an element fails over the innermost predicate or not at all. -/
theorem evaluateElement_error_iff {p : Predicate} {element : Node} {e : EvaluationError} :
    p.evaluateElement element = .error e ↔ p.core.HasSelector ∧ e = .misplaced p.core := by
  induction p with
  | contentMatches content =>
    constructor
    · intro h
      cases h
    · rintro ⟨hSelector, _⟩
      exact hSelector.elim
  | negation sub ih =>
    rw [core, ← ih, evaluateElement]
    cases sub.evaluateElement element with
    | ok holds =>
      constructor
      · intro h
        cases h
      · intro h
        cases h
    | error other => rfl
  | elementMatches selector inner ih =>
    constructor
    · intro h
      cases h
      exact ⟨trivial, rfl⟩
    · rintro ⟨_, rfl⟩
      rfl

theorem evaluateSite_of_not_hasSelector {p : Predicate} (h : ¬ p.HasSelector) (d : Document) :
    p.evaluateSite d = ⟨.error (.misplaced p), []⟩ := by
  cases p with
  | contentMatches content => rfl
  | negation sub => rfl
  | elementMatches selector element => exact absurd trivial h

/-- What stands in a page predicate is looked at only if its selector points to an element. -/
theorem evaluateSite_elementMatches_iff {selector : String} {inner q : Predicate} {d : Document} :
    ((elementMatches selector inner).evaluateSite d).value = .error (.misplaced q) ↔
      Selects selector d ∧ inner.core.HasSelector ∧ q = inner.core := by
  cases hRead : Selector.read selector with
  | error fault =>
    rw [evaluateSite_of_error hRead]
    exact iff_of_false nofun fun hAll => not_selects_of_error hRead hAll.1
  | ok list =>
    cases hFirst : list.first? d with
    | none =>
      have hNone := Selector.SelectorList.first?_eq_none_iff.mp hFirst
      rw [evaluateSite_of_none hRead hNone]
      exact iff_of_false nofun fun hAll => (not_selects_iff hRead).mpr hNone hAll.1
    | some p =>
      have hIsFirst := Selector.SelectorList.first?_eq_some_iff.mp hFirst
      have hSelects : Selects selector d :=
        (selects_iff hRead).mpr (Selector.SelectorList.exists_isFirst_iff.mp ⟨p, hIsFirst⟩)
      rw [evaluateSite_of_first hRead hIsFirst, Logged.value_pure, evaluateElement_error_iff,
        EvaluationError.misplaced.injEq, and_iff_right hSelects]

theorem evaluateSite_misplaced_iff {p q : Predicate} {d : Document} :
    (p.evaluateSite d).value = .error (.misplaced q) ↔
      (¬ p.HasSelector ∧ q = p) ∨ ∃ selector inner, p = elementMatches selector inner ∧
        Selects selector d ∧ inner.core.HasSelector ∧ q = inner.core := by
  by_cases hRoot : p.HasSelector
  · cases p with
    | contentMatches content => exact hRoot.elim
    | negation sub => exact hRoot.elim
    | elementMatches selector inner =>
      rw [evaluateSite_elementMatches_iff]
      constructor
      · intro h
        exact Or.inr ⟨selector, inner, rfl, h⟩
      · rintro (⟨hOther, _⟩ | ⟨_, _, hSame, h⟩)
        · exact absurd hRoot hOther
        · cases hSame
          exact h
  · rw [evaluateSite_of_not_hasSelector hRoot]
    constructor
    · intro h
      cases h
      exact Or.inl ⟨hRoot, rfl⟩
    · rintro (⟨_, rfl⟩ | ⟨selector, inner, rfl, _⟩)
      · rfl
      · exact absurd trivial hRoot

theorem not_hasSelector_core {p : Predicate} (h : p.IsElement) : ¬ p.core.HasSelector := by
  induction p with
  | contentMatches content => exact id
  | negation sub ih => exact ih h
  | elementMatches selector element ih => exact h.elim

theorem evaluateElement_not_misplaced {p : Predicate} (h : p.IsElement) (element : Node)
    (q : Predicate) : p.evaluateElement element ≠ .error (.misplaced q) := fun hError =>
  not_hasSelector_core h (evaluateElement_error_iff.mp hError).1

theorem evaluateSite_not_misplaced {p : Predicate} (h : p.IsSite) (d : Document) (q : Predicate) :
    (p.evaluateSite d).value ≠ .error (.misplaced q) := by
  cases p with
  | contentMatches content => exact h.elim
  | negation sub => exact h.elim
  | elementMatches selector inner =>
    intro hError
    exact not_hasSelector_core h (evaluateSite_elementMatches_iff.mp hError).2.1

end Predicate

end PageCheck
