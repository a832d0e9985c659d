import PageCheck.Proofs.Predicate.Literals
import PageCheck.Proofs.Predicate.Raising
import PageCheck.Proofs.Predicate.Reading

/-!
# Reading back the text of a predicate

The quotes around a literal end up at the two ends of an argument, so stripping keeps all that is
between them and unquoting gives it back. Two things can go wrong: a comma in a literal makes one
argument too many, and negations can be nested too deeply. An empty literal is read as its quotes.
The error about nesting names the limit, which has to be short enough for that.
-/

namespace PageCheck.Predicate

set_option autoImplicit false

open Call (written)

/-- What is read where a literal was written: quotes around nothing are not taken off. -/
def reread (s : String) : String := if s = "" then "''" else s

theorem reread_eq_self_iff (s : String) : reread s = s ↔ s ≠ "" := by
  by_cases hEmpty : s = ""
  · subst hEmpty
    simp [reread]
  · simp [reread, hEmpty]

theorem unquote_append {s : List Char} (h : s ≠ []) : unquote ('\'' :: (s ++ ['\''])) = s := by
  simp [unquote, h]

theorem literal_quoted (s : String) : literal (Text.strip (quoted s)) = reread s := by
  rw [quoted, Text.strip_of_ends (by decide) (by decide), literal]
  by_cases hEmpty : s = ""
  · subst hEmpty
    rfl
  · have hChars : s.toList ≠ [] := fun hNil => hEmpty (String.toList_eq_nil_iff.mp hNil)
    rw [unquote_append hChars, String.ofList_toList, reread, if_neg hEmpty]

theorem strip_expression {p : Predicate} (h : p.IsElement) :
    Text.strip p.expression.toList = p.expression.toList := by
  cases p with
  | contentMatches content =>
    rw [expression_contentMatches, Call.strip_written (by decide) (by decide)]
  | negation sub => rw [expression_negation, Call.strip_written (by decide) (by decide)]
  | elementMatches selector element => exact h.elim

theorem expression_ne_nil {p : Predicate} (h : p.IsElement) : p.expression.toList ≠ [] := by
  cases p with
  | contentMatches content => simp [expression_contentMatches, written]
  | negation sub => simp [expression_negation, written]
  | elementMatches selector element => exact h.elim

theorem comma_mem_expression {p : Predicate} (h : p.IsElement) :
    ',' ∈ p.expression.toList ↔ ∃ l ∈ p.literals, ',' ∈ l.toList :=
  mem_expression_of_isElement (by decide) h

theorem comma_notMem_expression {p : Predicate} (h : p.IsElement)
    (hComma : ∀ l ∈ p.literals, ',' ∉ l.toList) : ',' ∉ p.expression.toList := by
  intro hMem
  obtain ⟨l, hl, hMem⟩ := (comma_mem_expression h).mp hMem
  exact hComma l hl hMem

theorem readElement_expression {p : Predicate} (h : p.IsElement) {limit : Int} {depth : Nat}
    (hComma : ∀ l ∈ p.literals, ',' ∉ l.toList)
    (hNesting : p.negations = 0 ∨ (depth + p.negations : Int) ≤ limit) :
    readElement limit depth p.expression.toList = .ok (p.mapLiterals reread) := by
  induction p generalizing depth with
  | contentMatches content =>
    have hBody : ',' ∉ quoted content := by
      rw [mem_quoted (by decide)]
      exact hComma content List.mem_cons_self
    rw [expression_contentMatches, readElement_content (by simp [quoted]) hBody, literal_quoted]
    rfl
  | negation sub ih =>
    have hSub : sub.IsElement := h
    have hDeeper : (depth + (sub.negations + 1 : Nat) : Int) ≤ limit := by
      simpa [negations] using hNesting
    have hInner : readElement limit (depth + 1) sub.expression.toList =
        .ok (sub.mapLiterals reread) := by
      apply ih hSub hComma
      right
      omega
    have hRoom : ¬ limit ≤ depth := by omega
    rw [expression_negation, readElement_negation (expression_ne_nil hSub)
      (comma_notMem_expression hSub hComma), if_neg hRoom, strip_expression hSub, hInner]
    rfl
  | elementMatches selector element => exact h.elim

theorem readElement_expression_of_comma {p : Predicate} (h : p.IsElement) {limit : Int} {depth : Nat}
    (hComma : ∃ l ∈ p.literals, ',' ∈ l.toList) :
    ∃ text, readElement limit depth p.expression.toList = .error (failure .elementPredicate text) := by
  cases p with
  | contentMatches content =>
    obtain ⟨l, hl, hComma⟩ := hComma
    rw [List.mem_singleton.mp hl] at hComma
    have hBody : ',' ∈ quoted content := (mem_quoted (by decide) content).mpr hComma
    rw [expression_contentMatches]
    exact ⟨_, readElement_of_comma (by decide) (by decide) hBody⟩
  | negation sub =>
    have hSub : sub.IsElement := h
    rw [expression_negation]
    exact ⟨_, readElement_of_comma (by decide) (by decide) ((comma_mem_expression hSub).mpr hComma)⟩
  | elementMatches selector element => exact h.elim

theorem readElement_expression_of_deep {p : Predicate} (h : p.IsElement) {limit : Int} {depth : Nat}
    (hComma : ∀ l ∈ p.literals, ',' ∉ l.toList) (hSome : 0 < p.negations)
    (hDeep : limit < (depth + p.negations : Int)) :
    ∃ text, readElement limit depth p.expression.toList = .error (failure (.nesting limit) text) := by
  induction p generalizing depth with
  | contentMatches content => exact absurd hSome (Nat.lt_irrefl 0)
  | negation sub ih =>
    have hSub : sub.IsElement := h
    rw [expression_negation, readElement_negation (expression_ne_nil hSub)
      (comma_notMem_expression hSub hComma)]
    by_cases hRoom : limit ≤ depth
    · exact ⟨_, if_pos hRoom⟩
    -- This negation is still allowed, so the fault is further inside.
    · simp only [negations] at hDeep
      have hMore : 0 < sub.negations := by omega
      have hInner : limit < (((depth + 1 : Nat) : Int) + sub.negations) := by omega
      obtain ⟨text, hError⟩ := ih hSub hComma hMore hInner
      rw [if_neg hRoom, strip_expression hSub, hError]
      exact ⟨text, rfl⟩
  | elementMatches selector element => exact h.elim

theorem readSite_expression {p : Predicate} (h : p.IsSite) {limit : Int}
    (hComma : ∀ l ∈ p.literals, ',' ∉ l.toList) (hNesting : (p.nesting : Int) ≤ max limit 0) :
    readSite limit p.expression.toList = .ok (p.mapLiterals reread) := by
  cases p with
  | elementMatches selector element =>
    have hElement : element.IsElement := h
    have hSelector : ',' ∉ quoted selector := by
      rw [mem_quoted (by decide)]
      exact hComma selector List.mem_cons_self
    have hLiterals : ∀ l ∈ element.literals, ',' ∉ l.toList := fun l hl =>
      hComma l (List.mem_cons_of_mem _ hl)
    have hRest : ',' ∉ ' ' :: element.expression.toList := by
      simpa using comma_notMem_expression hElement hLiterals
    have hInner : readElement limit 0 element.expression.toList =
        .ok (element.mapLiterals reread) := by
      apply readElement_expression hElement hLiterals
      simp only [nesting] at hNesting
      omega
    rw [expression_elementMatches, readSite_written hSelector hRest,
      Text.strip_cons_of_isBlank (by decide), strip_expression hElement, hInner, literal_quoted]
    rfl
  | contentMatches content => exact h.elim
  | negation sub => exact h.elim

theorem readSite_expression_of_comma {p : Predicate} (h : p.IsSite) {limit : Int}
    (hComma : ∃ l ∈ p.literals, ',' ∈ l.toList) :
    ∃ text, readSite limit p.expression.toList = .error (failure .sitePredicate text) := by
  cases p with
  | elementMatches selector element =>
    have hElement : element.IsElement := h
    rw [expression_elementMatches]
    refine ⟨_, readSite_of_commas (by decide) (by decide) (by simp) fun hCount => ?_⟩
    -- Then the one comma is that between the arguments, and none is in a literal.
    simp only [List.count_append, List.count_cons_self] at hCount
    have hSelector : ',' ∉ quoted selector := List.count_eq_zero.mp (by omega)
    have hRest : ',' ∉ ' ' :: element.expression.toList := List.count_eq_zero.mp (by omega)
    obtain ⟨l, hl, hMem⟩ := hComma
    rcases List.mem_cons.mp hl with rfl | hl
    · exact hSelector ((mem_quoted (by decide) l).mpr hMem)
    · exact hRest (List.mem_cons_of_mem _ ((comma_mem_expression hElement).mpr ⟨l, hl, hMem⟩))
  | contentMatches content => exact h.elim
  | negation sub => exact h.elim

theorem readSite_expression_of_deep {p : Predicate} (h : p.IsSite) {limit : Int}
    (hComma : ∀ l ∈ p.literals, ',' ∉ l.toList) (hDeep : max limit 0 < p.nesting) :
    ∃ text, readSite limit p.expression.toList = .error (failure (.nesting limit) text) := by
  cases p with
  | elementMatches selector element =>
    have hElement : element.IsElement := h
    have hSelector : ',' ∉ quoted selector := by
      rw [mem_quoted (by decide)]
      exact hComma selector List.mem_cons_self
    have hLiterals : ∀ l ∈ element.literals, ',' ∉ l.toList := fun l hl =>
      hComma l (List.mem_cons_of_mem _ hl)
    have hRest : ',' ∉ ' ' :: element.expression.toList := by
      simpa using comma_notMem_expression hElement hLiterals
    simp only [nesting] at hDeep
    have hSome : 0 < element.negations := by omega
    have hInner : limit < (((0 : Nat) : Int) + element.negations) := by omega
    obtain ⟨text, hError⟩ := readElement_expression_of_deep hElement hLiterals hSome hInner
    rw [expression_elementMatches, readSite_written hSelector hRest,
      Text.strip_cons_of_isBlank (by decide), strip_expression hElement, hError]
    exact ⟨text, rfl⟩
  | contentMatches content => exact h.elim
  | negation sub => exact h.elim

theorem raise_failure_of_short (fault : ParseFault) (h : ∀ n ∈ fault.number?, Text.isLong n = false)
    (text : List Char) : (failure fault text).raise = .error (failure fault text) :=
  ParseError.raise_of_isWritable (ParseError.isWritable_iff.mpr ⟨h, nofun⟩)

theorem raise_failure_of_long {limit : Int} (h : Text.isLong limit = true) (text : List Char) :
    (failure (.nesting limit) text).raise = .longNumber :=
  ParseError.raise_of_long (Or.inl rfl) h

/-- What parsing the text of a predicate comes to under a limit. -/
structure ReadsBack (parse : List Char → Except ParseStop Predicate) (limit : Int)
    (p : Predicate) : Prop where
  fails : (∃ l ∈ p.literals, ',' ∈ l.toList) ∨ (max limit 0 < p.nesting ∧ Text.isLong limit = false) →
    ∃ e, parse p.expression.toList = .error (.error e)
  /-- A limit that is too long to be named is not blamed. -/
  gives_up : (∀ l ∈ p.literals, ',' ∉ l.toList) → max limit 0 < p.nesting → Text.isLong limit = true →
    parse p.expression.toList = .error .longNumber
  succeeds : (∀ l ∈ p.literals, ',' ∉ l.toList) → (p.nesting : Int) ≤ max limit 0 →
    parse p.expression.toList = .ok (p.mapLiterals reread)
  faithful : parse p.expression.toList = .ok p ↔
    (∀ l ∈ p.literals, l ≠ "" ∧ ',' ∉ l.toList) ∧ (p.nesting : Int) ≤ max limit 0

theorem ReadsBack.of_outcomes {read : List Char → Except ParseError Predicate} {limit : Int}
    {p : Predicate} {fault : ParseFault} (hShort : fault.number? = none)
    (hCommas : (∃ l ∈ p.literals, ',' ∈ l.toList) →
      ∃ text, read p.expression.toList = .error (failure fault text))
    (hDeeps : (∀ l ∈ p.literals, ',' ∉ l.toList) → max limit 0 < p.nesting →
      ∃ text, read p.expression.toList = .error (failure (.nesting limit) text))
    (hSucceeds : (∀ l ∈ p.literals, ',' ∉ l.toList) → (p.nesting : Int) ≤ max limit 0 →
      read p.expression.toList = .ok (p.mapLiterals reread)) :
    ReadsBack (fun text => (read text).mapError ParseError.raise) limit p where
  fails h := by
    by_cases hComma : ∃ l ∈ p.literals, ',' ∈ l.toList
    · obtain ⟨text, hError⟩ := hCommas hComma
      have hRaise := raise_failure_of_short fault (by rw [hShort]; exact nofun) text
      exact ⟨_, ParseError.mapError_raise_eq_error_iff.mpr ⟨_, hError, hRaise⟩⟩
    · obtain ⟨hDeep, hLimit⟩ := h.resolve_left hComma
      obtain ⟨text, hError⟩ := hDeeps (fun l hl hMem => hComma ⟨l, hl, hMem⟩) hDeep
      have hRaise := raise_failure_of_short (.nesting limit) (by rintro n ⟨⟩; exact hLimit) text
      exact ⟨_, ParseError.mapError_raise_eq_error_iff.mpr ⟨_, hError, hRaise⟩⟩
  gives_up hComma hDeep hLimit := by
    obtain ⟨text, hError⟩ := hDeeps hComma hDeep
    exact ParseError.mapError_raise_eq_error_iff.mpr ⟨_, hError, raise_failure_of_long hLimit text⟩
  succeeds hComma hNesting := ParseError.mapError_raise_eq_ok_iff.mpr (hSucceeds hComma hNesting)
  faithful := by
    rw [ParseError.mapError_raise_eq_ok_iff]
    constructor
    · intro hRead
      have hComma : ∀ l ∈ p.literals, ',' ∉ l.toList := by
        intro l hl hMem
        obtain ⟨text, hError⟩ := hCommas ⟨l, hl, hMem⟩
        cases hRead.symm.trans hError
      have hNesting : (p.nesting : Int) ≤ max limit 0 := by
        apply Int.not_lt.mp
        intro hDeep
        obtain ⟨text, hError⟩ := hDeeps hComma hDeep
        cases hRead.symm.trans hError
      rw [hSucceeds hComma hNesting] at hRead
      have hSame := (mapLiterals_eq_self_iff reread p).mp (Except.ok.inj hRead)
      exact ⟨fun l hl => ⟨(reread_eq_self_iff l).mp (hSame l hl), hComma l hl⟩, hNesting⟩
    · rintro ⟨hLiterals, hNesting⟩
      have hSame : p.mapLiterals reread = p := (mapLiterals_eq_self_iff reread p).mpr fun l hl =>
        (reread_eq_self_iff l).mpr (hLiterals l hl).1
      rw [hSucceeds (fun l hl => (hLiterals l hl).2) hNesting, hSame]

theorem readsBack (limit : Int) :
    (∀ p : Predicate, p.IsSite → ReadsBack (parseSite limit) limit p) ∧
      ∀ p : Predicate, p.IsElement → ReadsBack (parseElement limit) limit p := by
  constructor
  · intro p h
    exact .of_outcomes rfl (readSite_expression_of_comma h) (readSite_expression_of_deep h)
      (readSite_expression h)
  · intro p h
    apply ReadsBack.of_outcomes rfl (readElement_expression_of_comma h)
    · intro hComma hDeep
      rw [nesting_of_isElement h] at hDeep
      exact readElement_expression_of_deep h hComma (by omega) (by omega)
    · intro hComma hNesting
      rw [nesting_of_isElement h] at hNesting
      exact readElement_expression h hComma (by omega)

/-- Quotes, parentheses, bars, blanks and line ends inside literals are harmless. -/
theorem readsBack_marks :
    let element := negation (negation (contentMatches " not('x')\n| "))
    let site := elementMatches "'a' > (b)|" element
    element.IsElement ∧ site.IsSite ∧ parseElement 2 element.expression.toList = .ok element ∧
      parseSite 2 site.expression.toList = .ok site ∧
      ∃ e, parseSite 1 site.expression.toList = .error (.error e) := by
  intro element site
  have hElement : element.IsElement := trivial
  have hSite : site.IsSite := trivial
  have hOne : Text.isLong 1 = false := Text.isLong_of_lt_ten (by decide)
  refine ⟨hElement, hSite, ?_, ?_, ?_⟩
  · exact ((readsBack 2).2 element hElement).faithful.mpr ⟨by decide, by decide⟩
  · exact ((readsBack 2).1 site hSite).faithful.mpr ⟨by decide, by decide⟩
  · exact ((readsBack 1).1 site hSite).fails (Or.inr ⟨by decide, hOne⟩)

/-- Under a limit that is negative and too long, one negation is too many, but no error comes of it. -/
theorem parseSite_of_long_limit :
    let limit : Int := -(Nat.pow 10 Text.digitLimit : Nat)
    let site := elementMatches "p" (negation (contentMatches "x"))
    site.IsSite ∧ max limit 0 < site.nesting ∧ ∀ e, parseSite limit site.expression.toList ≠ .error (.error e) := by
  intro limit site
  have hSite : site.IsSite := trivial
  have hDeep : max limit 0 < site.nesting := by
    have hNegative : limit ≤ 0 := Int.neg_nonpos_of_nonneg (Int.natCast_nonneg _)
    rw [Int.max_eq_right hNegative]
    decide
  have hLong : Text.isLong limit = true := (Text.isLong_neg _).trans Text.isLong_pow
  refine ⟨hSite, hDeep, fun e hError => ?_⟩
  obtain ⟨text, hRead⟩ := readSite_expression_of_deep hSite (by decide) hDeep
  obtain ⟨found, hFound, hRaise⟩ := ParseError.mapError_raise_eq_error_iff.mp hError
  cases hRead.symm.trans hFound
  cases (raise_failure_of_long hLong text).symm.trans hRaise

end PageCheck.Predicate
