import PageCheck.Proofs.Check.Outcome
import PageCheck.Proofs.Fetch.Outcome
import PageCheck.Proofs.Predicate.Selecting
import PageCheck.Proofs.SpecFile.Numbers
import PageCheck.Proofs.SpecFile.RoundTrip

/-!
# How a check ends

A check that gives a result ends in one of five ways: the page cannot be fetched, its selector cannot
be read, the selector points to nothing, or the element that it points to is as asked for, or not.
Each of them says what the result is and what stands in the log.
-/

namespace PageCheck

set_option autoImplicit false

open Html (Document Place)

/-- The page at a URL comes, and its content is a document. -/
def Pages.Deliver (pages : Pages) (url : String) (d : Document) : Prop :=
  ∃ page, (fetch pages url).value = .ok page ∧ Document.read page.content = .ok d

/-- The ways in which a check can end that looks for the text `content` under `k` negations, with
the status and the detail of the result and with what is logged between request and result. -/
inductive Ending (pages : Pages) (url selector content : String) (k : Nat) :
    CheckStatus → String → List Log.Record → Prop where
  | unfetched {e : FetchError} (hFetch : (fetch pages url).value = .error (.failed e)) :
      Ending pages url selector content k .error e.message []
  | unread {d : Document} {fault : Selector.Fault} (hPage : pages.Deliver url d)
      (hRead : Selector.read selector = .error fault) (hSort : fault.sort ≠ .number) :
      Ending pages url selector content k .error
        (EvaluationError.invalid selector (fault.message selector)) []
  | missed {d : Document} {list : Selector.SelectorList} (hPage : pages.Deliver url d)
      (hRead : Selector.read selector = .ok list)
      (hNone : ∀ q ∈ d.places, list.holds false q = false) :
      Ending pages url selector content k .notMatched ""
        [⟨.warning, "Could not find element " ++ selector⟩]
  | matched {d : Document} {list : Selector.SelectorList} {p : Place} (hPage : pages.Deliver url d)
      (hRead : Selector.read selector = .ok list) (hFirst : list.IsFirst d p)
      (hText : Xor (p.node.text = content) (Odd k)) :
      Ending pages url selector content k .matched "" []
  | unmatched {d : Document} {list : Selector.SelectorList} {p : Place} (hPage : pages.Deliver url d)
      (hRead : Selector.read selector = .ok list) (hFirst : list.IsFirst d p)
      (hText : ¬ Xor (p.node.text = content) (Odd k)) :
      Ending pages url selector content k .notMatched "" []

/-- The record that a check with this result writes at its end. -/
def CheckResult.closing (r : CheckResult) : Log.Record :=
  if r.status = .error then ⟨.warning, "Check failed for " ++ r.url ++ ": " ++ r.detail⟩
  else ⟨.info, r.describe⟩

theorem Ending.detail_eq_empty_iff {pages : Pages} {url selector content : String} {k : Nat}
    {status : CheckStatus} {detail : String} {extra : List Log.Record}
    (h : Ending pages url selector content k status detail extra) :
    detail = "" ↔ status ≠ .error := by
  cases h with
  | unfetched hFetch =>
    refine iff_of_false ?_ (not_not_intro rfl)
    unfold FetchError.message
    rw [String.append_eq_empty_iff, String.append_eq_empty_iff, String.append_eq_empty_iff]
    exact fun hEmpty => absurd hEmpty.1.1.1 (by decide)
  | unread hPage hRead hSort =>
    refine iff_of_false ?_ (not_not_intro rfl)
    unfold EvaluationError.invalid
    rw [String.append_eq_empty_iff, String.append_eq_empty_iff, String.append_eq_empty_iff]
    exact fun hEmpty => absurd hEmpty.1.1.1 (by decide)
  | missed hPage hRead hNone => exact iff_of_true rfl (by decide)
  | matched hPage hRead hFirst hText => exact iff_of_true rfl (by decide)
  | unmatched hPage hRead hFirst hText => exact iff_of_true rfl (by decide)

variable {pages : Pages} {spec : Spec} {line : Int}

namespace Verdict

theorem ofEvaluation_of_fault {selector : String} {fault : Selector.Fault}
    (h : fault.sort ≠ .number) : ofEvaluation (.error (.selector selector fault)) =
      faulty (EvaluationError.invalid selector (fault.message selector)) := by
  have hInvalid : (EvaluationError.selector selector fault).isInvalidSelector = true :=
    bne_iff_ne.mpr h
  rw [ofEvaluation, if_pos hInvalid, EvaluationError.message_of_sort h]

theorem ofEvaluation_of_number {selector : String} {fault : Selector.Fault}
    (h : fault.sort = .number) : ofEvaluation (.error (.selector selector fault)) =
      stopped (.evaluation (.selector selector fault)) := by
  have hValid : ¬ (EvaluationError.selector selector fault).isInvalidSelector = true :=
    fun hInvalid => bne_iff_ne.mp hInvalid h
  rw [ofEvaluation, if_neg hValid]

theorem ofSpec_of_failed {e : FetchError} (h : (fetch pages spec.url).value = .error (.failed e)) :
    ofSpec pages spec = ⟨faulty e.message, [⟨.debug, "GET " ++ spec.url⟩]⟩ := by
  have hFetch : fetch pages spec.url = ⟨.error (.failed e), [⟨.debug, "GET " ++ spec.url⟩]⟩ := by
    rw [← h]
    rfl
  rw [ofSpec, hFetch]
  rfl

theorem ofSpec_of_deliver {d : Document} (h : pages.Deliver spec.url d) :
    ofSpec pages spec = ⟨ofEvaluation (spec.predicate.evaluateSite d).value,
      ⟨.debug, "GET " ++ spec.url⟩ :: (spec.predicate.evaluateSite d).records⟩ := by
  obtain ⟨page, hPage, hDocument⟩ := h
  have hFetch : fetch pages spec.url = ⟨.ok page, [⟨.debug, "GET " ++ spec.url⟩]⟩ := by
    rw [← hPage]
    rfl
  have hContent : ofContent spec.predicate page.content =
      ⟨ofEvaluation (spec.predicate.evaluateSite d).value,
        (spec.predicate.evaluateSite d).records⟩ := by
    rw [ofContent, hDocument]
    exact congrArg (Logged.mk _) (List.append_nil _)
  rw [ofSpec, hFetch]
  change Logged.mk (ofContent spec.predicate page.content).value
    ([⟨.debug, "GET " ++ spec.url⟩] ++ (ofContent spec.predicate page.content).records) = _
  rw [hContent]
  rfl

theorem ofSpec_of_first {selector content : String} {k : Nat} {d : Document}
    {list : Selector.SelectorList} {p : Place}
    (hPredicate : spec.predicate =
      .elementMatches selector ((Predicate.contentMatches content).negate k))
    (hPage : pages.Deliver spec.url d) (hRead : Selector.read selector = .ok list)
    (hFirst : list.IsFirst d p) :
    ∃ holds, ofSpec pages spec = ⟨decided holds, [⟨.debug, "GET " ++ spec.url⟩]⟩ ∧
      (holds = true ↔ Xor (p.node.text = content) (Odd k)) := by
  obtain ⟨holds, hElement, hHolds⟩ := Predicate.evaluateElement_negate content k p.node
  refine ⟨holds, ?_, hHolds⟩
  rw [ofSpec_of_deliver hPage, hPredicate, Predicate.evaluateSite_of_first hRead hFirst, hElement]
  rfl

end Verdict

/-- How a result is written down: what is logged before, and the record of the result itself. -/
theorem checkSpec_of_faulty {detail : String} {records : List Log.Record}
    (h : Verdict.ofSpec pages spec = ⟨.faulty detail, records⟩) :
    checkSpec pages spec line = ⟨.ok (.ofStatus line spec .error detail),
      records ++ [(CheckResult.ofStatus line spec .error detail).closing]⟩ := by
  rw [checkSpec, h]
  rfl

theorem checkSpec_of_decided {holds : Bool} {records : List Log.Record}
    (h : Verdict.ofSpec pages spec = ⟨.decided holds, records⟩) :
    checkSpec pages spec line =
      ⟨.ok (.ofStatus line spec (if holds then .matched else .notMatched) ""),
        records ++ [(CheckResult.ofStatus line spec
          (if holds then .matched else .notMatched) "").closing]⟩ := by
  rw [checkSpec, h]
  cases holds <;> rfl

/-- The result of a check that ends with a status and a detail, and all that it logs. -/
theorem checkSpec_of_ending {selector content : String} {k : Nat} {status : CheckStatus}
    {detail : String} {extra : List Log.Record}
    (hPredicate : spec.predicate =
      .elementMatches selector ((Predicate.contentMatches content).negate k))
    (h : Ending pages spec.url selector content k status detail extra) :
    checkSpec pages spec line = ⟨.ok (.ofStatus line spec status detail),
      ⟨.debug, "GET " ++ spec.url⟩ :: extra ++
        [(CheckResult.ofStatus line spec status detail).closing]⟩ := by
  cases h with
  | unfetched hFetch => exact checkSpec_of_faulty (Verdict.ofSpec_of_failed hFetch)
  | unread hPage hRead hSort =>
    apply checkSpec_of_faulty
    rw [Verdict.ofSpec_of_deliver hPage, hPredicate, Predicate.evaluateSite_of_error hRead,
      Logged.value_pure, Logged.records_pure, Verdict.ofEvaluation_of_fault hSort]
  | missed hPage hRead hNone =>
    have hVerdict := Verdict.ofSpec_of_deliver hPage
    rw [hPredicate, Predicate.evaluateSite_of_none hRead hNone] at hVerdict
    exact checkSpec_of_decided hVerdict
  | matched hPage hRead hFirst hText =>
    obtain ⟨holds, hVerdict, hHolds⟩ := Verdict.ofSpec_of_first hPredicate hPage hRead hFirst
    rw [checkSpec_of_decided hVerdict, hHolds.mpr hText]
    rfl
  | unmatched hPage hRead hFirst hText =>
    obtain ⟨holds, hVerdict, hHolds⟩ := Verdict.ofSpec_of_first hPredicate hPage hRead hFirst
    rw [checkSpec_of_decided hVerdict, Bool.eq_false_iff.mpr fun hTrue => hText (hHolds.mp hTrue)]
    rfl

theorem exists_ending {selector content : String} {k : Nat} {r : CheckResult}
    (hPredicate : spec.predicate =
      .elementMatches selector ((Predicate.contentMatches content).negate k))
    (h : (checkSpec pages spec line).value = .ok r) :
    ∃ status detail extra, Ending pages spec.url selector content k status detail extra := by
  -- The cases are the steps of a check in their order; where one lets an error out, no result comes.
  rw [value_checkSpec] at h
  cases hFetch : (fetch pages spec.url).value with
  | error stop =>
    cases stop with
    | failed e => exact ⟨_, _, _, .unfetched hFetch⟩
    | escaped failure =>
      rw [Verdict.ofSpec, Logged.value_bind, hFetch] at h
      cases h
    | silence =>
      rw [Verdict.ofSpec, Logged.value_bind, hFetch] at h
      cases h
  | ok page =>
    cases hDocument : Document.read page.content with
    | error fault =>
      rw [Verdict.ofSpec, Logged.value_bind, hFetch] at h
      dsimp only at h
      rw [Verdict.ofContent, hDocument] at h
      cases h
    | ok d =>
      have hPage : pages.Deliver spec.url d := ⟨page, hFetch, hDocument⟩
      cases hRead : Selector.read selector with
      | error fault =>
        by_cases hSort : fault.sort = .number
        · rw [Verdict.ofSpec_of_deliver hPage, hPredicate, Predicate.evaluateSite_of_error hRead] at h
          dsimp only [Logged.value_pure] at h
          rw [Verdict.ofEvaluation_of_number hSort] at h
          cases h
        · exact ⟨_, _, _, .unread hPage hRead hSort⟩
      | ok list =>
        cases hFirst : list.first? d with
        | none =>
          exact ⟨_, _, _, .missed hPage hRead (Selector.SelectorList.first?_eq_none_iff.mp hFirst)⟩
        | some p =>
          have hPlace := Selector.SelectorList.first?_eq_some_iff.mp hFirst
          by_cases hText : Xor (p.node.text = content) (Odd k)
          · exact ⟨_, _, _, .matched hPage hRead hPlace hText⟩
          · exact ⟨_, _, _, .unmatched hPage hRead hPlace hText⟩

end PageCheck
