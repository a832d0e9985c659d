import PageCheck.Proofs.Predicate.RoundTrip
import PageCheck.Proofs.Text.Strip

/-!
# The texts that are read as specifications

The readers do not balance parentheses: each takes all that stands before the last one. Even so a
text that is read can be taken apart in one way only. From the left, blanks and the names of calls
lead to the content; from the right, blanks and closing parentheses do, one for each name.
-/

namespace PageCheck

set_option autoImplicit false

open Call (written argsOf)
open Text (Margin)

namespace Predicate

/-- A comparison with a content under negations, with blanks around what each of them negates. -/
def spelled (content : List Char) : List Margin → List Char
  | [] => written "content_matches".toList content
  | m :: inner => written "not".toList (m.around (spelled content inner))

theorem strip_spelled (content : List Char) (margins : List Margin) :
    Text.strip (spelled content margins) = spelled content margins := by
  cases margins with
  | nil => exact Call.strip_written (by decide) (by decide) content
  | cons m inner => exact Call.strip_written (by decide) (by decide) _

theorem spelled_ne_nil (content : List Char) (margins : List Margin) :
    spelled content margins ≠ [] := by
  cases margins with
  | nil => simp [spelled, written]
  | cons m inner => simp [spelled, written]

theorem comma_mem_spelled {content : List Char} {margins : List Margin} :
    ',' ∈ spelled content margins ↔ ',' ∈ content := by
  have hMarks (name : List Char) (body : List Char) (hName : ',' ∉ name) :
      ',' ∈ written name body ↔ ',' ∈ body := by
    simp [written, hName]
  induction margins with
  | nil => exact hMarks _ content (by decide)
  | cons m inner ih =>
    rw [spelled, hMarks _ _ (by decide), Margin.mem_around (by decide)]
    exact ih

theorem around_spelled_ne_nil (m : Margin) (content : List Char) (inner : List Margin) :
    m.around (spelled content inner) ≠ [] := by
  simp [Margin.around, spelled_ne_nil]

theorem spelled_inj {content other : List Char} {margins others : List Margin}
    (h : spelled content margins = spelled other others) : content = other ∧ margins = others := by
  induction margins generalizing others with
  | nil =>
    cases others with
    | nil => simpa [spelled, written] using h
    | cons n rest => simp [spelled, written] at h
  | cons m inner ih =>
    cases others with
    | nil => simp [spelled, written] at h
    | cons n rest =>
      have hBody : m.around (spelled content inner) = n.around (spelled other rest) := by
        simpa [spelled, written] using h
      obtain ⟨rfl, hInner⟩ := Margin.around_inj (strip_spelled content inner)
        (strip_spelled other rest) (spelled_ne_nil content inner) hBody
      obtain ⟨rfl, rfl⟩ := ih hInner
      exact ⟨rfl, rfl⟩

/-- What the spelling of an element predicate is read as. -/
def ofSpelled (content : List Char) (margins : List Margin) : Predicate :=
  (contentMatches (literal (Text.strip content))).negate margins.length

theorem readElement_spelled {content : List Char} (hComma : ',' ∉ content) (hSome : content ≠ [])
    {limit : Int} {depth : Nat} {margins : List Margin}
    (hNesting : margins = [] ∨ (depth + margins.length : Int) ≤ limit) :
    readElement limit depth (spelled content margins) = .ok (ofSpelled content margins) := by
  -- The depth grows by what the list of margins gets shorter.
  induction margins generalizing depth with
  | nil => exact readElement_content hSome hComma
  | cons m inner ih =>
    have hDeeper : (depth + (inner.length + 1 : Nat) : Int) ≤ limit := by
      simpa using hNesting
    have hBody : ',' ∉ m.around (spelled content inner) := by
      rwa [Margin.mem_around (by decide), comma_mem_spelled]
    have hInner : readElement limit (depth + 1) (spelled content inner) =
        .ok (ofSpelled content inner) := by
      apply ih
      right
      omega
    have hRoom : ¬ limit ≤ depth := by omega
    rw [spelled, readElement_negation (around_spelled_ne_nil m content inner) hBody, if_neg hRoom,
      Margin.strip_around, strip_spelled, hInner]
    rfl

theorem exists_spelled_of_readElement {limit : Int} {depth : Nat} {text : List Char} {p : Predicate}
    (h : readElement limit depth text = .ok p) :
    ∃ content margins, text = spelled content margins ∧ ',' ∉ content ∧ content ≠ [] ∧
      (margins = [] ∨ (depth + margins.length : Int) ≤ limit) ∧ p = ofSpelled content margins := by
  -- Two cases give a predicate: a comparison, and a negation with room for one more.
  fun_induction readElement limit depth text generalizing p with
  | case2 depth text arg hCall =>
    cases h
    obtain ⟨body, rfl, _, _, hBody, hArgs⟩ := Call.read?_eq_some_iff.mp hCall
    obtain ⟨hComma, rfl⟩ := Call.argsOf_eq_singleton_iff.mp hArgs.symm
    exact ⟨body, [], rfl, hComma, hBody, Or.inl rfl, rfl⟩
  | case4 depth text arg hRoom hCall hOther hSame ih =>
    cases hSub : readElement limit (depth + 1) arg with
    | error e =>
      rw [hSub] at h
      cases h
    | ok q =>
      rw [hSub] at h
      cases h
      obtain ⟨content, inner, hText, hContent, hSome, hNesting, rfl⟩ := ih hSub
      obtain ⟨body, rfl, _, _, _, hArgs⟩ := Call.read?_eq_some_iff.mp hCall
      obtain ⟨_, hArg⟩ := Call.argsOf_eq_singleton_iff.mp hArgs.symm
      obtain ⟨m, hBody⟩ := Margin.exists_around body
      rw [← hArg, hText] at hBody
      refine ⟨content, m :: inner, by rw [hBody]; rfl, hContent, hSome, Or.inr ?_, rfl⟩
      rw [List.length_cons]
      rcases hNesting with rfl | hNesting
      · simp only [List.length_nil]
        omega
      · omega
  | _ => cases h

/-- The arguments of a page predicate. -/
def arguments (selector : List Char) (outer : Margin) (content : List Char) (inner : List Margin) :
    List Char :=
  selector ++ ',' :: outer.around (spelled content inner)

theorem comma_notMem_around {outer : Margin} {content : List Char} {inner : List Margin}
    (h : ',' ∉ content) : ',' ∉ outer.around (spelled content inner) := by
  rwa [Margin.mem_around (by decide), comma_mem_spelled]

theorem readSite_arguments {selector content : List Char} (hSelector : ',' ∉ selector)
    (hContent : ',' ∉ content) (hSome : content ≠ []) {limit : Int} (outer : Margin)
    {inner : List Margin} (hNesting : (inner.length : Int) ≤ max limit 0) :
    readSite limit (written "element_matches".toList (arguments selector outer content inner)) =
      .ok (elementMatches (literal (Text.strip selector)) (ofSpelled content inner)) := by
  have hInner : readElement limit 0 (spelled content inner) = .ok (ofSpelled content inner) := by
    apply readElement_spelled hContent hSome
    rw [← List.length_eq_zero_iff]
    omega
  rw [arguments, readSite_written hSelector (comma_notMem_around hContent), Margin.strip_around,
    strip_spelled, hInner]
  rfl

theorem exists_arguments_of_readSite {limit : Int} {text : List Char} {p : Predicate}
    (h : readSite limit text = .ok p) :
    ∃ selector outer content inner,
      text = written "element_matches".toList (arguments selector outer content inner) ∧
      ',' ∉ selector ∧ ',' ∉ content ∧ content ≠ [] ∧ (inner.length : Int) ≤ max limit 0 ∧
      p = elementMatches (literal (Text.strip selector)) (ofSpelled content inner) := by
  unfold readSite at h
  split at h
  · cases h
  · rename_i name first second hCall
    split at h
    · rename_i hName
      cases hElement : readElement limit 0 second with
      | error e =>
        rw [hElement] at h
        cases h
      | ok q =>
        rw [hElement] at h
        cases h
        obtain ⟨content, inner, hText, hContent, hSome, hNesting, rfl⟩ :=
          exists_spelled_of_readElement hElement
        obtain ⟨body, rfl, _, _, _, hArgs⟩ := Call.read?_eq_some_iff.mp hCall
        obtain ⟨selector, rest, rfl, hSelector, _, rfl, hSecond⟩ :=
          Call.argsOf_eq_pair_iff.mp hArgs.symm
        obtain ⟨outer, hRest⟩ := Margin.exists_around rest
        rw [← hSecond, hText] at hRest
        refine ⟨selector, outer, content, inner, ?_, hSelector, hContent, hSome, ?_, rfl⟩
        · rw [hName, hRest]
          rfl
        · rw [← List.length_eq_zero_iff] at hNesting
          omega
    · cases h
  · cases h

theorem unquote_of_not_quoted {s : List Char} (h : ¬ ∃ t, t ≠ [] ∧ s = '\'' :: (t ++ ['\''])) :
    unquote s = s := by
  unfold unquote
  split
  · rename_i rest
    split
    · rename_i inner hInner
      split
      · rfl
      · rename_i hSome
        refine absurd ⟨inner.reverse, by simpa using hSome, ?_⟩ h
        rw [← List.reverse_cons, ← hInner, List.reverse_reverse]
    · rfl
  · rfl

end Predicate

namespace Spec

/-- The parts of a line that is read, down to the blanks inside of its parentheses. -/
@[ext] structure Spelling where
  url : List Char
  selector : List Char
  outer : Margin
  inner : List Margin
  content : List Char
  comma_notMem_selector : ',' ∉ selector
  comma_notMem_content : ',' ∉ content
  content_ne_nil : content ≠ []

namespace Spelling

def predicateText (x : Spelling) : List Char :=
  written "element_matches".toList (Predicate.arguments x.selector x.outer x.content x.inner)

def text (x : Spelling) : List Char := x.url ++ '|' :: x.predicateText

def spec (x : Spelling) : Spec :=
  ⟨String.ofList x.url, .elementMatches (Predicate.literal (Text.strip x.selector))
    ((Predicate.contentMatches (Predicate.literal (Text.strip x.content))).negate x.inner.length)⟩

theorem eq_of_predicateText_eq {x y : Spelling} (hUrl : x.url = y.url)
    (h : x.predicateText = y.predicateText) : x = y := by
  have hArguments : Predicate.arguments x.selector x.outer x.content x.inner =
      Predicate.arguments y.selector y.outer y.content y.inner := by
    simpa [predicateText, written] using h
  have hSplit (z : Spelling) : Text.splitAt ','
      (Predicate.arguments z.selector z.outer z.content z.inner) =
        [z.selector, z.outer.around (Predicate.spelled z.content z.inner)] :=
    Text.splitAt_eq_pair_iff.mpr ⟨rfl, z.comma_notMem_selector,
      Predicate.comma_notMem_around z.comma_notMem_content⟩
  have hPieces := hSplit x
  rw [hArguments, hSplit y] at hPieces
  simp only [List.cons.injEq, and_true] at hPieces
  obtain ⟨hSelector, hElement⟩ := hPieces
  obtain ⟨hOuter, hSpelled⟩ := Margin.around_inj (Predicate.strip_spelled _ _)
    (Predicate.strip_spelled _ _) (Predicate.spelled_ne_nil _ _) hElement
  obtain ⟨hContent, hInner⟩ := Predicate.spelled_inj hSpelled
  exact Spelling.ext hUrl hSelector.symm hOuter.symm hInner.symm hContent.symm

theorem eq_of_text_eq {x y : Spelling} (hBar : x.text.count '|' = 1) (h : x.text = y.text) :
    x = y := by
  have hSplit : Text.splitAt '|' x.text = [x.url, x.predicateText] :=
    Text.splitAt_of_count_eq_one hBar
  rw [h] at hBar hSplit
  have hOther : Text.splitAt '|' y.text = [y.url, y.predicateText] :=
    Text.splitAt_of_count_eq_one hBar
  rw [hOther] at hSplit
  simp only [List.cons.injEq, and_true] at hSplit
  exact eq_of_predicateText_eq hSplit.1.symm hSplit.2.symm

end Spelling

theorem read_spelling {limit : Int} (number : Option Int) {x : Spelling}
    (hBar : x.text.count '|' = 1) (hNesting : (x.inner.length : Int) ≤ max limit 0) :
    read limit number x.text = .ok x.spec := by
  have hSplit : Text.splitAt '|' x.text = [x.url, x.predicateText] :=
    Text.splitAt_of_count_eq_one hBar
  have hSite := Predicate.readSite_arguments x.comma_notMem_selector x.comma_notMem_content
    x.content_ne_nil x.outer hNesting
  rw [read, hSplit]
  simp only [Spelling.predicateText, hSite]
  rfl

theorem exists_spelling_of_read {limit : Int} {number : Option Int} {line : List Char} {spec : Spec}
    (h : read limit number line = .ok spec) :
    ∃ x : Spelling, line = x.text ∧ line.count '|' = 1 ∧
      (x.inner.length : Int) ≤ max limit 0 ∧ spec = x.spec := by
  obtain ⟨text, rfl, hUrl, hBar, hSite⟩ := read_eq_ok_iff.mp h
  obtain ⟨selector, outer, content, inner, rfl, hSelector, hContent, hSome, hNesting, hPredicate⟩ :=
    Predicate.exists_arguments_of_readSite hSite
  refine ⟨⟨spec.url.toList, selector, outer, inner, content, hSelector, hContent, hSome⟩, rfl, ?_,
    hNesting, ?_⟩
  · rw [List.count_append, List.count_cons_self, List.count_eq_zero.mpr hUrl,
      List.count_eq_zero.mpr hBar]
  · rw [Spelling.spec, String.ofList_toList]
    exact congrArg (Spec.mk spec.url) hPredicate

/-- A line is read exactly if it is a spelling with one bar and no more negations than allowed, and
it is the spelling of nothing else. Quotes are taken off a literal if there is something between. -/
theorem read_accepts_iff (limit : Int) (number : Option Int) :
    (∀ (line : List Char) (spec : Spec), read limit number line = .ok spec ↔
      ∃ x : Spelling, line = x.text ∧ line.count '|' = 1 ∧
        (x.inner.length : Int) ≤ max limit 0 ∧ spec = x.spec) ∧
    (∀ x y : Spelling, x.text.count '|' = 1 → x.text = y.text → x = y) ∧
    ∀ s : List Char, (∀ t, t ≠ [] → s = '\'' :: (t ++ ['\'']) → Predicate.unquote s = t) ∧
      ((¬ ∃ t, t ≠ [] ∧ s = '\'' :: (t ++ ['\''])) → Predicate.unquote s = s) := by
  refine ⟨?_, ?_, ?_⟩
  · intro line spec
    constructor
    · exact exists_spelling_of_read
    · rintro ⟨x, rfl, hBar, hNesting, rfl⟩
      exact read_spelling number hBar hNesting
  · intro x y hBar hText
    exact Spelling.eq_of_text_eq hBar hText
  · intro s
    constructor
    · rintro t hSome rfl
      exact Predicate.unquote_append hSome
    · exact Predicate.unquote_of_not_quoted

/-- The content ends before the blank and the two parentheses at the end, whatever it looks like. -/
theorem read_accepts_iff_call :
    let margin : Margin := ⟨[' '], ['\t'], by decide, by decide⟩
    let x : Spelling := ⟨"u".toList, "' p'".toList, margin, [margin], "not(')')".toList,
      by decide, by decide, by decide⟩
    let line := "u|element_matches(' p', not( content_matches(not(')'))\t)\t)".toList
    x.text = line ∧ line.count '|' = 1 ∧
      read 1 none line = .ok ⟨"u", .elementMatches " p" (.negation (.contentMatches "not(')')"))⟩ ∧
      (∀ y : Spelling, y.text = line → x = y) ∧
      Predicate.unquote ['\'', ' ', 'p', '\''] = [' ', 'p'] ∧
      Predicate.unquote ['\'', '\''] = ['\'', '\''] := by
  intro margin x line
  have hText : x.text = line := by decide
  have hBar : line.count '|' = 1 := by decide
  obtain ⟨hAccepts, hUnique, hUnquote⟩ := read_accepts_iff 1 none
  have hSpec : x.spec = ⟨"u", .elementMatches " p" (.negation (.contentMatches "not(')')"))⟩ := by
    decide
  have hRead := (hAccepts line x.spec).mpr ⟨x, hText.symm, hBar, by decide, rfl⟩
  refine ⟨hText, hBar, hSpec ▸ hRead, ?_, ?_, ?_⟩
  · intro y hOther
    exact hUnique x y (hText ▸ hBar) (hText.trans hOther.symm)
  · exact (hUnquote _).1 [' ', 'p'] (by decide) rfl
  · apply (hUnquote _).2
    rintro ⟨t, hSome, hQuoted⟩
    have hLength := congrArg List.length hQuoted
    simp only [List.length_cons, List.length_append, List.length_nil] at hLength
    exact hSome (List.length_eq_zero_iff.mp (by omega))

end Spec

end PageCheck
