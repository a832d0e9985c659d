import PageCheck.Proofs.Check.Boundary
import PageCheck.Proofs.Predicate.Selecting
import PageCheck.Proofs.Selector.Written

/-!
# Who is to blame for an error

A predicate of a page fails for no other reason than its selector. The error says so unless the
reader of the selector comes to a number that cannot be read.
-/

namespace PageCheck.Predicate

set_option autoImplicit false

open Html (Document)

variable {selector : String} {element : Predicate} {d : Document}

theorem evaluateSite_error_iff (h : element.IsElement) {e : EvaluationError} :
    ((elementMatches selector element).evaluateSite d).value = .error e ↔
      ∃ fault, Selector.read selector = .error fault ∧ e = .selector selector fault := by
  cases hRead : Selector.read selector with
  | error fault =>
    rw [evaluateSite_of_error hRead]
    constructor
    · intro hError
      cases hError
      exact ⟨fault, rfl, rfl⟩
    · rintro ⟨other, hOther, rfl⟩
      cases hOther
      rfl
  | ok list =>
    refine iff_of_false ?_ (by rintro ⟨fault, hOther, _⟩; cases hOther)
    cases hFirst : list.first? d with
    | none =>
      rw [evaluateSite_of_none hRead (Selector.SelectorList.first?_eq_none_iff.mp hFirst)]
      exact nofun
    | some p =>
      obtain ⟨holds, hHolds⟩ := evaluateElement_of_isElement h p.node
      rw [evaluateSite_of_first hRead (Selector.SelectorList.first?_eq_some_iff.mp hFirst), hHolds]
      exact nofun

end PageCheck.Predicate
