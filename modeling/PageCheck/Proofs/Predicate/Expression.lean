import PageCheck.Proofs.Predicate.Expressible

/-!
# Predicates with the same text

Nothing in a literal is escaped, so two predicates can have the same text. For those of an element
this cannot happen, since quotes and parentheses stand at both ends of what they enclose. For those of
a page it takes a comma in a selector, and a selector that was read has none.
-/

namespace PageCheck.Predicate

set_option autoImplicit false

open Call (written)

theorem quoted_inj {s t : String} (h : quoted s = quoted t) : s = t :=
  String.toList_inj.mp (List.append_cancel_right (List.tail_eq_of_cons_eq h))

theorem eq_of_expression_eq_of_isElement {p q : Predicate} (hp : p.IsElement) (hq : q.IsElement)
    (h : p.expression = q.expression) : p = q := by
  induction p generalizing q with
  | contentMatches content =>
    cases q with
    | contentMatches other =>
      have hText := congrArg String.toList h
      rw [expression_contentMatches, expression_contentMatches] at hText
      rw [quoted_inj (Call.written_inj (by decide) (by decide) hText).2]
    | negation sub =>
      have hText := congrArg String.toList h
      rw [expression_contentMatches, expression_negation] at hText
      exact absurd (Call.written_inj (by decide) (by decide) hText).1 (by decide)
    | elementMatches selector element => exact hq.elim
  | negation sub ih =>
    cases q with
    | contentMatches other =>
      have hText := congrArg String.toList h
      rw [expression_negation, expression_contentMatches] at hText
      exact absurd (Call.written_inj (by decide) (by decide) hText).1 (by decide)
    | negation other =>
      have hOther : other.IsElement := hq
      have hText := congrArg String.toList h
      rw [expression_negation, expression_negation] at hText
      have hSub := (Call.written_inj (by decide) (by decide) hText).2
      rw [ih hp hOther (String.toList_inj.mp hSub)]
    | elementMatches selector element => exact hq.elim
  | elementMatches selector element => exact hp.elim

theorem eq_of_expression_eq {p q : Predicate} (hp : p.IsSite) (hq : q.IsSite)
    (hpComma : ∀ l ∈ p.literals, ',' ∉ l.toList) (hqComma : ∀ l ∈ q.literals, ',' ∉ l.toList)
    (h : p.expression = q.expression) : p = q := by
  cases p with
  | contentMatches content => exact hp.elim
  | negation sub => exact hp.elim
  | elementMatches selector element =>
    cases q with
    | contentMatches content => exact hq.elim
    | negation sub => exact hq.elim
    | elementMatches other rest =>
      have hText := congrArg String.toList h
      rw [expression_elementMatches, expression_elementMatches] at hText
      have hBody := (Call.written_inj (by decide) (by decide) hText).2
      -- The first comma is the one behind the selector, on both sides.
      have hRun {s : String} (hs : ',' ∉ s.toList) : ∀ c ∈ quoted s, (c != ',') = true := by
        intro c hc
        apply bne_iff_ne.mpr
        rintro rfl
        exact hs ((mem_quoted (by decide) s).mp hc)
      have hEnd (rest : List Char) : ∀ c ∈ (',' :: rest).head?, (c != ',') = false := by
        rintro c hFirst
        cases hFirst
        rfl
      obtain ⟨hSelector, hRest⟩ := Text.append_inj_of_run (hRun (hpComma selector List.mem_cons_self))
        (hRun (hqComma other List.mem_cons_self)) (hEnd _) (hEnd _) hBody
      have hElement : element.expression.toList = rest.expression.toList := by simpa using hRest
      rw [quoted_inj hSelector,
        eq_of_expression_eq_of_isElement hp hq (String.toList_inj.mp hElement)]

/-- With a comma in a selector the text does not tell where it ends. -/
example : (elementMatches "p" (contentMatches "a', content_matches('b")).expression =
    (elementMatches "p', content_matches('a" (contentMatches "b")).expression := by decide

/-- What was read can be told from its text, under whatever limits it was read. -/
theorem expression_eq_iff_of_read {limit other : Int} {s t : List Char} {p q : Predicate}
    (hp : readSite limit s = .ok p) (hq : readSite other t = .ok q) :
    p.expression = q.expression ↔ p = q := by
  constructor
  · obtain ⟨hpSite, hpComma, _⟩ := isExpressible_of_readSite hp
    obtain ⟨hqSite, hqComma, _⟩ := isExpressible_of_readSite hq
    exact eq_of_expression_eq hpSite hqSite hpComma hqComma
  · exact congrArg expression

/-- The text of the first predicate, whose literals are empty, is read as the second one; but the text
of the second one is another. -/
theorem expression_eq_iff_of_read_empty :
    let p := elementMatches "" (contentMatches "")
    let q := elementMatches "''" (contentMatches "''")
    readSite 0 "element_matches( ,content_matches( ))".toList = .ok p ∧
      readSite 5 p.expression.toList = .ok q ∧ p.expression ≠ q.expression := by
  intro p q
  have hText : "element_matches( ,content_matches( ))".toList =
      written "element_matches".toList (arguments [' '] .none [' '] []) := by decide
  have hp : readSite 0 "element_matches( ,content_matches( ))".toList = .ok p := by
    rw [hText, readSite_arguments (by decide) (by decide) (by decide) .none (by decide)]
    rfl
  have hSite : p.IsSite := trivial
  have hq : readSite 5 p.expression.toList = .ok q :=
    readSite_expression hSite (by decide) (by decide)
  refine ⟨hp, hq, fun hSame => ?_⟩
  exact absurd ((expression_eq_iff_of_read hp hq).mp hSame) (by decide)

end PageCheck.Predicate
