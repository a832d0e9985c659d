import Mathlib.Data.List.Basic
import Mathlib.Logic.Relation
import PageCheck.Proofs.Predicate.Raising
import PageCheck.Proofs.Predicate.Reading

/-!
# Where errors come from

The readers go from a call to its arguments, and an error blames the text at which they stop. So that
text is reached through arguments of arguments and stands as it is in the text that was read. The
number of the line is put to the error at the very end, and nothing else depends on it.
-/

namespace PageCheck

set_option autoImplicit false

namespace Call

/-- The second text is an argument of the first one. -/
def HasArgument (text arg : List Char) : Prop := ∃ call, read? text = some call ∧ arg ∈ call.args

theorem HasArgument.isInfix {text arg : List Char} (h : HasArgument text arg) : arg <:+: text := by
  obtain ⟨⟨name, args⟩, hCall, hArg⟩ := h
  obtain ⟨body, rfl, _, _, _, rfl⟩ := read?_eq_some_iff.mp hCall
  obtain ⟨piece, hPiece, rfl⟩ := List.mem_map.mp hArg
  have hBody : body <:+: written name body := ⟨name ++ ['('], [')'], by simp [written]⟩
  exact ((Text.strip_isInfix piece).trans (Text.isInfix_of_mem_splitAt hPiece)).trans hBody

theorem isInfix_of_arguments {text inner : List Char}
    (h : Relation.ReflTransGen HasArgument text inner) : inner <:+: text := by
  induction h with
  | refl => exact List.infix_rfl
  | tail _ hArgument ih => exact hArgument.isInfix.trans ih

end Call

namespace ParseFault

/-- The faults that the readers find under a limit; their wording ends with the text they blame. -/
def IsFound (limit : Int) : ParseFault → Prop
  | stated _ => False
  | nesting other => other = limit
  | _ => True

variable {limit : Int}

theorem eq_limit_of_isFound {fault : ParseFault} (h : fault.IsFound limit) :
    ∀ n ∈ fault.number?, n = limit := by
  cases fault with
  | nesting other =>
    rintro n ⟨⟩
    exact h
  | _ => exact nofun

theorem exists_lead {fault : ParseFault} (h : fault.IsFound limit) (text : String) :
    ∃ lead : String, fault.describe text = lead ++ text ∧
      ∃ first, lead.toList.head? = some first ∧ first ≠ 'l' := by
  cases fault with
  | stated reason => exact h.elim
  | nesting other =>
    refine ⟨"Predicate nesting deeper than " ++ toString other ++ " levels: ", rfl, 'P', ?_,
      by decide⟩
    have hFirst : "Predicate nesting deeper than ".toList.head? = some 'P' := by decide
    rw [String.toList_append, String.toList_append, List.head?_append, List.head?_append, hFirst]
    rfl
  | call => exact ⟨"Could not parse function call from: ", rfl, 'C', by decide, by decide⟩
  | elementPredicate =>
    exact ⟨"Could not parse element predicate from: ", rfl, 'C', by decide, by decide⟩
  | sitePredicate =>
    exact ⟨"Could not parse site predicate from: ", rfl, 'C', by decide, by decide⟩
  | spec => exact ⟨"Could not parse site spec from: ", rfl, 'C', by decide, by decide⟩

end ParseFault

namespace ParseError

variable {limit : Int}

theorem message_of_none {e : ParseError} (h : e.line = none) :
    e.message = e.fault.describe e.text := by
  rw [message, h]

theorem message_numbered {e : ParseError} (h : e.line = none) (n : Int) :
    ({ e with line := some n } : ParseError).message = "line " ++ toString n ++ ": " ++ e.message := by
  rw [message_of_none h]
  rfl

theorem suffix_message {e : ParseError} (h : e.fault.IsFound limit) :
    e.text.toList <:+ e.message.toList := by
  obtain ⟨lead, hDescribe, _⟩ := ParseFault.exists_lead h e.text
  have hEnd : e.text.toList <:+ (e.fault.describe e.text).toList := by
    rw [hDescribe, String.toList_append]
    exact List.suffix_append _ _
  unfold message
  split
  · rw [String.toList_append]
    exact hEnd.trans (List.suffix_append _ _)
  · exact hEnd

/-- Without a number the message does not begin as one with a number does. -/
theorem not_prefix_message {e : ParseError} (h : e.fault.IsFound limit) (hLine : e.line = none) :
    ¬ "line ".toList <+: e.message.toList := by
  obtain ⟨lead, hDescribe, first, hLead, hFirst⟩ := ParseFault.exists_lead h e.text
  obtain ⟨rest, hLead⟩ := List.head?_eq_some_iff.mp hLead
  have hText : "line ".toList = 'l' :: "ine ".toList := by decide
  rw [message_of_none hLine, hDescribe, String.toList_append, hLead, hText, List.cons_append,
    List.cons_prefix_cons]
  exact fun hPrefix => hFirst hPrefix.1.symm

/-- What every error is that comes of reading a text: it blames a text inside of arguments, says so,
and knows of no line. -/
structure FoundIn (limit : Int) (e : ParseError) (text : List Char) : Prop where
  inside : Relation.ReflTransGen Call.HasArgument text e.text.toList
  fault : e.fault.IsFound limit
  line : e.line = none

theorem FoundIn.of_argument {e : ParseError} {text arg : List Char} (h : e.FoundIn limit arg)
    (hArgument : Call.HasArgument text arg) : e.FoundIn limit text :=
  ⟨h.inside.head hArgument, h.fault, h.line⟩

end ParseError

namespace Predicate

theorem foundIn_failure {limit : Int} (fault : ParseFault) (h : fault.IsFound limit) (text : List Char) :
    (failure fault text).FoundIn limit text where
  inside := by
    rw [failure, String.toList_ofList]
  fault := h
  line := rfl

theorem foundIn_of_readElement {limit : Int} {depth : Nat} {text : List Char} {e : ParseError}
    (h : readElement limit depth text = .error e) : e.FoundIn limit text := by
  -- Only under a negation does the error come from further inside.
  fun_induction readElement limit depth text generalizing e with
  | case1 depth text hCall =>
    cases h
    exact foundIn_failure .call trivial text
  | case2 depth text arg hCall => cases h
  | case3 depth text arg hCall hOther hFull =>
    cases h
    exact foundIn_failure (.nesting limit) rfl text
  | case4 depth text arg hRoom hCall hOther hSame ih =>
    cases hSub : readElement limit (depth + 1) arg with
    | ok q =>
      rw [hSub] at h
      cases h
    | error found =>
      rw [hSub] at h
      cases h
      exact (ih hSub).of_argument ⟨_, hCall, List.mem_cons_self⟩
  | case5 depth text name arg hCall hContent hNot =>
    cases h
    exact foundIn_failure .elementPredicate trivial text
  | case6 depth text name args hOther hCall =>
    cases h
    exact foundIn_failure .elementPredicate trivial text

theorem foundIn_of_readSite {limit : Int} {text : List Char} {e : ParseError}
    (h : readSite limit text = .error e) : e.FoundIn limit text := by
  unfold readSite at h
  split at h
  · cases h
    exact foundIn_failure .call trivial text
  · rename_i name selector element hCall
    split at h
    · cases hElement : readElement limit 0 element with
      | ok q =>
        rw [hElement] at h
        cases h
      | error found =>
        rw [hElement] at h
        cases h
        exact (foundIn_of_readElement hElement).of_argument
          ⟨_, hCall, List.mem_cons_of_mem _ List.mem_cons_self⟩
    · cases h
      exact foundIn_failure .sitePredicate trivial text
  · cases h
    exact foundIn_failure .sitePredicate trivial text

end Predicate

namespace Spec

variable {limit : Int} {line : List Char} {e : ParseError}

theorem read_numbered (limit : Int) (number : Option Int) (line : List Char) :
    read limit number line = (read limit none line).mapError ({ · with line := number }) := by
  unfold read
  split
  · rename_i url predicate _
    cases Predicate.readSite limit predicate with
    | ok p => rfl
    | error e => rfl
  · rfl

/-- A line is blamed as a whole, or for a part of what stands behind its one bar. -/
theorem blame_of_read {number : Option Int} (h : read limit number line = .error e) :
    e.fault.IsFound limit ∧ e.line = number ∧
      (line.count '|' ≠ 1 ∧ e.text.toList = line ∨
        ∃ url predicate, Text.splitAt '|' line = [url, predicate] ∧ e.text.toList <:+: predicate) := by
  unfold read at h
  split at h
  · rename_i url predicate hPieces
    split at h
    · cases h
    · rename_i found hSite
      cases h
      have hFound := Predicate.foundIn_of_readSite hSite
      exact ⟨hFound.fault, rfl,
        Or.inr ⟨url, predicate, hPieces, Call.isInfix_of_arguments hFound.inside⟩⟩
  · rename_i hPieces
    cases h
    refine ⟨trivial, rfl, Or.inl ⟨?_, String.toList_ofList⟩⟩
    intro hCount
    have hLength := Text.length_splitAt '|' line
    rw [hCount] at hLength
    obtain ⟨url, predicate, hPair⟩ := List.length_eq_two.mp hLength
    exact hPieces url predicate hPair

theorem isWritable_of_read {number : Option Int} (h : read limit number line = .error e)
    (hLimit : Text.isLong limit = false) (hNumber : ∀ n ∈ number, Text.isLong n = false) :
    e.isWritable = true := by
  obtain ⟨hFound, hLine, _⟩ := blame_of_read h
  apply ParseError.isWritable_iff.mpr
  refine ⟨fun n hn => ?_, ?_⟩
  · rw [ParseFault.eq_limit_of_isFound hFound n hn]
    exact hLimit
  · rw [hLine]
    exact hNumber

theorem parse_eq_error_iff {number : Option Int} : parse limit number line = .error (.error e) ↔
    read limit number line = .error e ∧ e.isWritable = true := by
  rw [parse, ParseError.mapError_raise_eq_error_iff]
  simp only [ParseError.raise_eq_error_iff]
  constructor
  · rintro ⟨_, hRead, hWritable, rfl⟩
    exact ⟨hRead, hWritable⟩
  · rintro ⟨hRead, hWritable⟩
    exact ⟨e, hRead, hWritable, rfl⟩

/-- If the limit and the number of a line can be written, nothing but an error comes of a failure. -/
theorem exists_error_of_parse {number : Option Int} {stop : ParseStop}
    (h : parse limit number line = .error stop) (hLimit : Text.isLong limit = false)
    (hNumber : ∀ n ∈ number, Text.isLong n = false) : ∃ e, stop = .error e := by
  obtain ⟨e, hRead, rfl⟩ := ParseError.mapError_raise_eq_error_iff.mp h
  exact ⟨e, ParseError.raise_of_isWritable (isWritable_of_read hRead hLimit hNumber)⟩

/-- Lines are parsed alike with a number and without one, up to the number in front of the message of
an error. The blame is on the line if it has no bar or too many, and else on a part of what stands
behind the bar. Errors there are as long as the limit and the number can be written. -/
theorem parse_traces_errors (limit : Int) (line : List Char) :
    (∀ (n : Int) (spec : Spec), parse limit (some n) line = .ok spec ↔ parse limit none line = .ok spec) ∧
    (∀ (n : Int) (e numbered : ParseError), parse limit none line = .error (.error e) →
      parse limit (some n) line = .error (.error numbered) →
        numbered.text = e.text ∧ numbered.line = some n ∧ e.line = none ∧
        numbered.message = "line " ++ toString n ++ ": " ++ e.message ∧
        ¬ "line ".toList <+: e.message.toList) ∧
    (∀ (number : Option Int) (e : ParseError), parse limit number line = .error (.error e) →
      (line.count '|' ≠ 1 → e.text.toList = line) ∧
      (∀ url predicate, line = url ++ '|' :: predicate → line.count '|' = 1 →
        e.text.toList <:+: predicate) ∧
      e.text.toList <:+ e.message.toList) ∧
    (Text.isLong limit = false → ∀ (number : Option Int) (stop : ParseStop),
      (∀ n ∈ number, Text.isLong n = false) → parse limit number line = .error stop →
        ∃ e, stop = .error e) := by
  refine ⟨?_, ?_, ?_, ?_⟩
  · intro n spec
    rw [parse_eq_ok_iff, parse_eq_ok_iff, read_numbered limit (some n)]
    cases read limit none line with
    | ok found => rfl
    | error e => exact iff_of_false nofun nofun
  · intro n e numbered hParsed hParsedToo
    have hError := (parse_eq_error_iff.mp hParsed).1
    have hNumbered := (parse_eq_error_iff.mp hParsedToo).1
    rw [read_numbered limit (some n), hError] at hNumbered
    cases hNumbered
    obtain ⟨hFound, hLine, _⟩ := blame_of_read hError
    exact ⟨rfl, rfl, hLine, ParseError.message_numbered hLine n,
      ParseError.not_prefix_message hFound hLine⟩
  · intro number e hParsed
    obtain ⟨hFound, _, hBlame⟩ := blame_of_read (parse_eq_error_iff.mp hParsed).1
    refine ⟨?_, ?_, ParseError.suffix_message hFound⟩
    · intro hCount
      rcases hBlame with ⟨_, hText⟩ | ⟨url, predicate, hPieces, _⟩
      · exact hText
      · have hLength := Text.length_splitAt '|' line
        rw [hPieces] at hLength
        exact absurd (Nat.succ.inj hLength).symm hCount
    · rintro url predicate rfl hCount
      rcases hBlame with ⟨hOther, _⟩ | ⟨before, behind, hPieces, hPart⟩
      · exact absurd hCount hOther
      · cases (Text.splitAt_of_count_eq_one hCount).symm.trans hPieces
        exact hPart
  · intro hLimit number stop hNumber hStop
    exact exists_error_of_parse hStop hLimit hNumber

/-- The error is two calls deep, and the blanks around its text are not part of it. -/
theorem parse_traces_errors_deep :
    let site := "element_matches(p, not( x ))".toList
    let line := "u|".toList ++ site
    let e : ParseError := ⟨.call, "x", none⟩
    let numbered : ParseError := ⟨.call, "x", some (-7)⟩
    parse 1 none line = .error (.error e) ∧ parse 1 (some (-7)) line = .error (.error numbered) ∧
      numbered.message = "line -7: " ++ e.message ∧
      e.message = "Could not parse function call from: x" ∧ ¬ "line ".toList <+: e.message.toList ∧
      e.text.toList <:+: site := by
  intro site line e numbered
  have hInner : Predicate.readElement 1 1 ['x'] = .error e := by
    rw [Predicate.readElement_eq]
    rfl
  have hElement : Predicate.readElement 1 0 "not( x )".toList = .error e := by
    have hText : "not( x )".toList = Call.written "not".toList [' ', 'x', ' '] := by decide
    have hStrip : Text.strip [' ', 'x', ' '] = ['x'] := by decide
    rw [hText, Predicate.readElement_negation (by decide) (by decide), if_neg (by decide), hStrip, hInner]
    rfl
  have hSite : Predicate.readSite 1 site = .error e := by
    have hText : site =
      Call.written "element_matches".toList (['p'] ++ ',' :: ' ' :: "not( x )".toList) := by decide
    have hStrip : Text.strip (' ' :: "not( x )".toList) = "not( x )".toList := by decide
    rw [hText, Predicate.readSite_written (by decide) (by decide), hStrip, hElement]
    rfl
  have hPieces : Text.splitAt '|' line = [['u'], site] := by decide
  have hRead (number : Option Int) : read 1 number line = .error { e with line := number } := by
    rw [read, hPieces]
    simp only [hSite]
  have hOne : Text.isLong 1 = false := Text.isLong_of_lt_ten (by decide)
  have hParse (number : Option Int) (hNumber : ∀ n ∈ number, Text.isLong n = false) :
      parse 1 number line = .error (.error { e with line := number }) :=
    parse_eq_error_iff.mpr ⟨hRead number, isWritable_of_read (hRead number) hOne hNumber⟩
  have hPlain : parse 1 none line = .error (.error e) := by
    apply hParse
    intro n hMem
    cases hMem
  have hSeventh : parse 1 (some (-7)) line = .error (.error numbered) := by
    apply hParse
    intro n hMem
    cases hMem
    exact Text.isLong_of_lt_ten (by decide)
  obtain ⟨_, hNumbered, hBlame, _⟩ := parse_traces_errors 1 line
  obtain ⟨_, _, _, hMessage, hPrefix⟩ := hNumbered (-7) e numbered hPlain hSeventh
  obtain ⟨_, hPart, _⟩ := hBlame none e hPlain
  exact ⟨hPlain, hSeventh, hMessage, rfl, hPrefix, hPart ['u'] site (by decide) (by decide)⟩

/-- A line that cannot be parsed is not blamed for it if its number is too long to be written. -/
theorem parse_of_long_number :
    let n : Int := (Nat.pow 10 Text.digitLimit : Nat)
    (∃ e, parse 0 none ['v'] = .error (.error e)) ∧ parse 0 (some n) ['v'] = .error .longNumber := by
  intro n
  have hRead (number : Option Int) : read 0 number ['v'] = .error ⟨.spec, "v", number⟩ := rfl
  have hZero : Text.isLong 0 = false := Text.isLong_of_lt_ten (by decide)
  refine ⟨⟨⟨.spec, "v", none⟩, ?_⟩, ?_⟩
  · exact parse_eq_error_iff.mpr ⟨hRead none, isWritable_of_read (hRead none) hZero nofun⟩
  · have hRaise := ParseError.raise_of_long (e := ⟨.spec, "v", some n⟩) (Or.inr rfl) Text.isLong_pow
    exact ParseError.mapError_raise_eq_error_iff.mpr ⟨_, hRead _, hRaise⟩

end Spec

end PageCheck
