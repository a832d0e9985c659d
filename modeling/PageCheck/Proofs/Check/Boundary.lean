import PageCheck.Proofs.Check.Report
import PageCheck.Proofs.Fetch.Outcome
import PageCheck.Proofs.Html.Scan
import PageCheck.Proofs.Predicate.Selecting
import PageCheck.Proofs.SpecFile.RoundTrip

/-!
# What a page can do to a run

A check whose page is at hand and whose selector is read, or refused as a selector, gives a result
unless the page is refused. A run then gives a report unless one of its pages is refused.
-/

namespace PageCheck

set_option autoImplicit false

open Html (Document)

/-- A selector that is read, or refused by the grammar or as not supported. -/
def Selector.IsJudged (selector : String) : Prop :=
  ∀ fault, Selector.read selector = .error fault → fault.sort ≠ .number

theorem Selector.isJudged_of_isOk {selector : String} (h : (Selector.read selector).isOk = true) :
    IsJudged selector := by
  intro fault hFault
  rw [hFault] at h
  cases h

namespace Predicate

def HasJudgedSelector : Predicate → Prop
  | elementMatches selector _ => Selector.IsJudged selector
  | _ => True

theorem isInvalidSelector_of_evaluateSite {p : Predicate} (hSite : p.IsSite)
    (hSelector : p.HasJudgedSelector) {document : Document} {e : EvaluationError}
    (h : (p.evaluateSite document).value = .error e) : e.isInvalidSelector = true := by
  cases p with
  | contentMatches content => exact hSite.elim
  | negation sub => exact hSite.elim
  | elementMatches selector element =>
    rw [evaluateSite] at h
    split at h
    · rename_i fault hFault
      cases h
      have hRead : Selector.read selector = .error fault := by
        rw [Document.select] at hFault
        cases hRead : Selector.read selector with
        | error other =>
          rw [hRead] at hFault
          cases hFault
          rfl
        | ok list =>
          rw [hRead] at hFault
          cases hFault
      exact bne_iff_ne.mpr (hSelector fault hRead)
    · cases h
    · rename_i found _
      obtain ⟨holds, hHolds⟩ := evaluateElement_of_isElement hSite found
      cases hHolds.symm.trans h

end Predicate

namespace Verdict

theorem ofEvaluation_stopped_iff {r : Except EvaluationError Bool} :
    (∃ stop, ofEvaluation r = .stopped stop) ↔ ∃ e, r = .error e ∧ e.isInvalidSelector = false := by
  cases r with
  | ok holds =>
    constructor
    · rintro ⟨stop, hStop⟩
      cases hStop
    · rintro ⟨e, hError, _⟩
      cases hError
  | error e =>
    cases hBlame : e.isInvalidSelector with
    | true =>
      constructor
      · rintro ⟨stop, hStop⟩
        rw [ofEvaluation, hBlame] at hStop
        cases hStop
      · rintro ⟨other, hError, hOther⟩
        cases hError
        rw [hBlame] at hOther
        cases hOther
    | false =>
      refine iff_of_true ⟨.evaluation e, ?_⟩ ⟨e, rfl, hBlame⟩
      rw [ofEvaluation, hBlame]
      rfl

theorem ofContent_stopped_iff {p : Predicate} (hSite : p.IsSite) (hSelector : p.HasJudgedSelector)
    {content : String} :
    (∃ stop, (ofContent p content).value = .stopped stop) ↔ Html.IsRefused content := by
  rw [← Document.read_fails_iff, ofContent]
  cases hRead : Document.read content with
  | error fault => exact iff_of_true ⟨.markup fault, rfl⟩ ⟨fault, rfl⟩
  | ok document =>
    refine iff_of_false ?_ Html.ok_succeeds
    intro hStop
    obtain ⟨e, hError, hBlame⟩ := ofEvaluation_stopped_iff.mp hStop
    rw [Predicate.isInvalidSelector_of_evaluateSite hSite hSelector hError] at hBlame
    cases hBlame

end Verdict

namespace Spec

/-- A specification as it can be written, whose selector is read, or refused as a selector. -/
structure IsCheckable (spec : Spec) : Prop where
  site : spec.predicate.IsSite
  selector : spec.predicate.HasJudgedSelector

def Loads (pages : Pages) (spec : Spec) : Prop :=
  (∃ page, (fetch pages spec.url).value = .ok page) ∨
    ∃ e, (fetch pages spec.url).value = .error (.failed e)

def IsRefused (pages : Pages) (spec : Spec) : Prop :=
  ∃ page, (fetch pages spec.url).value = .ok page ∧ Html.IsRefused page.content

end Spec

namespace Verdict

variable {pages : Pages} {spec : Spec}

theorem value_ofSpec_of_page {page : Page} (h : (fetch pages spec.url).value = .ok page) :
    (ofSpec pages spec).value = (ofContent spec.predicate page.content).value := by
  rw [ofSpec, Logged.value_bind, h]

theorem value_ofSpec_of_failed {e : FetchError}
    (h : (fetch pages spec.url).value = .error (.failed e)) :
    (ofSpec pages spec).value = .faulty e.message := by
  rw [ofSpec, Logged.value_bind, h]
  rfl

theorem ofSpec_stopped_iff (hSpec : spec.IsCheckable) (hLoads : spec.Loads pages) :
    (∃ stop, (ofSpec pages spec).value = .stopped stop) ↔ spec.IsRefused pages := by
  rcases hLoads with ⟨page, hPage⟩ | ⟨e, hFailed⟩
  · rw [value_ofSpec_of_page hPage, ofContent_stopped_iff hSpec.site hSpec.selector]
    constructor
    · intro hRefused
      exact ⟨page, hPage, hRefused⟩
    · rintro ⟨other, hOther, hRefused⟩
      cases hPage.symm.trans hOther
      exact hRefused
  · rw [value_ofSpec_of_failed hFailed]
    constructor
    · rintro ⟨stop, hStop⟩
      cases hStop
    · rintro ⟨page, hPage, _⟩
      cases hPage.symm.trans hFailed

end Verdict

theorem checkSpec_returns_iff {pages : Pages} {spec : Spec} {line : Int} (hSpec : spec.IsCheckable)
    (hLoads : spec.Loads pages) :
    (∃ r, (checkSpec pages spec line).value = .ok r) ↔ ¬ spec.IsRefused pages := by
  rw [← Verdict.ofSpec_stopped_iff hSpec hLoads, value_checkSpec]
  cases (Verdict.ofSpec pages spec).value with
  | decided holds => exact iff_of_true ⟨_, rfl⟩ (by rintro ⟨stop, hStop⟩; cases hStop)
  | faulty detail => exact iff_of_true ⟨_, rfl⟩ (by rintro ⟨stop, hStop⟩; cases hStop)
  | stopped stop => exact iff_of_false (by rintro ⟨r, hOk⟩; cases hOk) (fun h => h ⟨stop, rfl⟩)

namespace Run

variable {pages : Pages}

theorem checksReturn_iff_of_loads {lines : List SpecLine}
    (h : ∀ line ∈ lines, ∀ spec, line.outcome = .ok spec → spec.IsCheckable ∧ spec.Loads pages) :
    ChecksReturn pages lines ↔
      ∀ line ∈ lines, ∀ spec, line.outcome = .ok spec → ¬ spec.IsRefused pages := by
  constructor
  · intro hReturn line hLine spec hOutcome
    have hSpec := h line hLine spec hOutcome
    exact (checkSpec_returns_iff hSpec.1 hSpec.2).mp (hReturn line hLine spec hOutcome)
  · intro hPages line hLine spec hOutcome
    have hSpec := h line hLine spec hOutcome
    exact (checkSpec_returns_iff hSpec.1 hSpec.2).mpr (hPages line hLine spec hOutcome)

end Run

end PageCheck
