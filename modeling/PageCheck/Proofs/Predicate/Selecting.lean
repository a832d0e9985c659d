import Mathlib.Algebra.Ring.Parity
import PageCheck.Predicate.Evaluation
import PageCheck.Proofs.Predicate.Literals

/-!
# What a predicate says about a document

A predicate that can be written is a selector over a comparison under some number of negations. It is
judged on the first place of the document at which the selector holds, and every negation turns the
answer round once.
-/

namespace PageCheck

set_option autoImplicit false

open Html (Document Node Place)

namespace Selector.SelectorList

variable {list : SelectorList} {d : Document} {p : Place}

/-- The list holds at the place, and nowhere before it in the document. -/
def IsFirst (list : SelectorList) (d : Document) (p : Place) : Prop :=
  ∃ before after, d.places = before ++ p :: after ∧
    (∀ q ∈ before, list.holds false q = false) ∧ list.holds false p = true

theorem first?_eq_none_iff : list.first? d = none ↔ ∀ q ∈ d.places, list.holds false q = false := by
  rw [first?, List.find?_eq_none]
  simp only [Bool.not_eq_true]

theorem first?_eq_some_iff : list.first? d = some p ↔ list.IsFirst d p := by
  rw [first?, List.find?_eq_some_iff_append]
  constructor
  · rintro ⟨hHere, before, after, hPlaces, hBefore⟩
    exact ⟨before, after, hPlaces, by simpa using hBefore, hHere⟩
  · rintro ⟨before, after, hPlaces, hBefore, hHere⟩
    exact ⟨hHere, before, after, hPlaces, by simpa using hBefore⟩

end Selector.SelectorList

theorem EvaluationError.message_of_sort {selector : String} {fault : Selector.Fault}
    (h : fault.sort ≠ .number) :
    (EvaluationError.selector selector fault).message = invalid selector (fault.message selector) := by
  unfold message
  dsimp only
  split
  · rename_i hNumber
    exact absurd hNumber h
  · rfl

namespace Predicate

theorem evaluateElement_of_isElement {p : Predicate} (h : p.IsElement) (element : Node) :
    ∃ holds, p.evaluateElement element = .ok holds := by
  induction p with
  | contentMatches content => exact ⟨_, rfl⟩
  | negation sub ih =>
    obtain ⟨holds, hSub⟩ := ih h
    refine ⟨!holds, ?_⟩
    rw [evaluateElement, hSub]
    rfl
  | elementMatches selector element ih => exact h.elim

theorem evaluateElement_negate (content : String) (k : Nat) (element : Node) :
    ∃ holds, ((contentMatches content).negate k).evaluateElement element = .ok holds ∧
      (holds = true ↔ Xor (element.text = content) (Odd k)) := by
  induction k with
  | zero =>
    refine ⟨element.text == content, rfl, ?_⟩
    simp [Xor]
  | succ k ih =>
    obtain ⟨holds, hInner, hHolds⟩ := ih
    refine ⟨!holds, ?_, ?_⟩
    · rw [negate, evaluateElement, hInner]
      rfl
    · rw [Bool.not_eq_true', ← Bool.not_eq_true, hHolds, Nat.odd_add_one, xor_not_right, not_xor]

variable {d : Document} {selector : String} {element : Predicate}

theorem evaluateSite_of_error {fault : Selector.Fault} (h : Selector.read selector = .error fault) :
    (elementMatches selector element).evaluateSite d = pure (.error (.selector selector fault)) := by
  rw [evaluateSite, Document.select, h]
  rfl

variable {list : Selector.SelectorList}

theorem evaluateSite_of_none (hRead : Selector.read selector = .ok list)
    (hNone : ∀ q ∈ d.places, list.holds false q = false) :
    (elementMatches selector element).evaluateSite d =
      ⟨.ok false, [⟨.warning, "Could not find element " ++ selector⟩]⟩ := by
  rw [evaluateSite, Document.select, hRead, Except.map,
    Selector.SelectorList.first?_eq_none_iff.mpr hNone]
  rfl

theorem evaluateSite_of_first {p : Place} (hRead : Selector.read selector = .ok list)
    (hFirst : list.IsFirst d p) :
    (elementMatches selector element).evaluateSite d = pure (element.evaluateElement p.node) := by
  rw [evaluateSite, Document.select, hRead, Except.map,
    Selector.SelectorList.first?_eq_some_iff.mpr hFirst]
  rfl

end Predicate

end PageCheck
