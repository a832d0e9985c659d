import PageCheck.Proofs.Predicate.Raising
import PageCheck.Proofs.Predicate.Spelling

/-!
# The limit of nested negations

A limit only cuts: what is read under one limit is read as the same under every larger one, and a
text that some limit allows fails under a smaller one for its nesting alone. The failure is at the
text that stands under as many negations as are allowed, and it is raised if the limit can be written.
-/

namespace PageCheck

set_option autoImplicit false

open Call (written argsOf)
open Text (Margin)

namespace Predicate

/-- The text that stands under so many negations. -/
def under? : Nat → List Char → Option (List Char)
  | 0, text => some text
  | k + 1, text =>
    match Call.read? text with
    | some ⟨name, [arg]⟩ => if name = "not".toList then under? k arg else none
    | _ => none

/-- The text of the element predicate in that of a page predicate. -/
def elementText? (text : List Char) : Option (List Char) :=
  match Call.read? text with
  | some ⟨name, [_, element]⟩ => if name = "element_matches".toList then some element else none
  | _ => none

variable {content : List Char}

theorem negations_ofSpelled (content : List Char) (margins : List Margin) :
    (ofSpelled content margins).negations = margins.length := by
  rw [ofSpelled, negations_negate]
  exact Nat.zero_add margins.length

/-- A text is longer than its negations are many. -/
theorem length_margins_le (content : List Char) (margins : List Margin) :
    margins.length ≤ (spelled content margins).length := by
  induction margins with
  | nil => exact Nat.zero_le _
  | cons m inner ih =>
    simp only [spelled, written, Margin.around, List.length_cons, List.length_append]
    omega

theorem read?_spelled_cons (hComma : ',' ∉ content) (m : Margin) (inner : List Margin) :
    Call.read? (spelled content (m :: inner)) = some ⟨"not".toList, [spelled content inner]⟩ := by
  have hBody : ',' ∉ m.around (spelled content inner) := by
    rwa [Margin.mem_around (by decide), comma_mem_spelled]
  rw [spelled, Call.read?_written (by decide) (by decide) (around_spelled_ne_nil m content inner),
    Call.argsOf_of_notMem hBody, Margin.strip_around, strip_spelled]

theorem under?_spelled (hComma : ',' ∉ content) {margins : List Margin} {k : Nat}
    (h : k ≤ margins.length) :
    under? k (spelled content margins) = some (spelled content (margins.drop k)) := by
  induction k generalizing margins with
  | zero => rfl
  | succ k ih =>
    cases margins with
    | nil => cases h
    | cons m inner =>
      rw [under?, read?_spelled_cons hComma]
      exact ih (Nat.le_of_succ_le_succ h)

/-- The reader fails where the allowed negations are used up. -/
theorem readElement_spelled_fails (hComma : ',' ∉ content) {limit : Int} {depth : Nat}
    {margins : List Margin} (hSome : margins ≠ []) (hDeep : limit < depth + margins.length) :
    readElement limit depth (spelled content margins) = .error (failure (.nesting limit)
      (spelled content (margins.drop (max (limit - depth) 0).toNat))) := by
  -- The depth grows by what the list of margins gets shorter.
  induction margins generalizing depth with
  | nil => exact absurd rfl hSome
  | cons m inner ih =>
    have hBody : ',' ∉ m.around (spelled content inner) := by
      rwa [Margin.mem_around (by decide), comma_mem_spelled]
    have hStep : readElement limit depth (spelled content (m :: inner)) =
        if limit ≤ depth then .error (failure (.nesting limit) (spelled content (m :: inner)))
        else (readElement limit (depth + 1) (spelled content inner)).map negation := by
      rw [spelled, readElement_negation (around_spelled_ne_nil m content inner) hBody,
        Margin.strip_around, strip_spelled]
    by_cases hFull : limit ≤ depth
    · have hHere : (max (limit - depth) 0).toNat = 0 := by omega
      rw [hStep, if_pos hFull, hHere]
      rfl
    · rw [List.length_cons] at hDeep
      have hInner : inner ≠ [] := by
        rintro rfl
        rw [List.length_nil] at hDeep
        omega
      have hNext : (max (limit - depth) 0).toNat = (max (limit - (depth + 1 : Nat)) 0).toNat + 1 := by
        omega
      rw [hStep, if_neg hFull, ih hInner (by omega), hNext]
      rfl

end Predicate

/-- The wording of an error about nesting. -/
theorem ParseError.message_nesting (limit : Int) (text : String) (line : Option Int) :
    ParseError.message ⟨.nesting limit, text, line⟩ =
      (line.map fun n => "line " ++ toString n ++ ": ").getD "" ++
        ("Predicate nesting deeper than " ++ toString limit ++ " levels: " ++ text) := by
  cases line with
  | none => exact String.empty_append.symm
  | some n => rfl

/-- A reader that its limit cuts off and changes in no other way. Nothing in its input has more
negations than `size`, and `under? k` is the text that stands under `k` of them. -/
structure OnlyCuts {α ε : Type} (raise : ParseError → ε) (read : Int → Except ε α) (size : Nat)
    (nesting : α → Nat) (under? : Nat → Option (List Char)) (line : Option Int) : Prop where
  accepts : ∀ (limit : Int) (a : α),
    read limit = .ok a ↔ read size = .ok a ∧ (nesting a : Int) ≤ max limit 0
  rejects : ∀ (limit : Int) (a : α) (stop : ε), read size = .ok a → read limit = .error stop →
    ∃ inner, under? (max limit 0).toNat = some inner ∧
      stop = raise ⟨.nesting limit, String.ofList inner, line⟩
  grows : ∀ (limit larger : Int) (a : α), limit ≤ larger → read limit = .ok a → read larger = .ok a

namespace OnlyCuts

variable {α β ε δ : Type} {raise : ParseError → ε} {read : Int → Except ε α} {size : Nat}
  {nesting : α → Nat} {under? : Nat → Option (List Char)} {line : Option Int}

theorem of_accepts
    (hAccepts : ∀ (limit : Int) (a : α),
      read limit = .ok a ↔ read size = .ok a ∧ (nesting a : Int) ≤ max limit 0)
    (hRejects : ∀ (limit : Int) (a : α) (stop : ε), read size = .ok a → read limit = .error stop →
      ∃ inner, under? (max limit 0).toNat = some inner ∧
        stop = raise ⟨.nesting limit, String.ofList inner, line⟩) :
    OnlyCuts raise read size nesting under? line where
  accepts := hAccepts
  rejects := hRejects
  grows limit larger a hLarger hRead := by
    obtain ⟨hSize, hNesting⟩ := (hAccepts limit a).mp hRead
    exact (hAccepts larger a).mpr ⟨hSize, by omega⟩

theorem of_fails {e : ε} (h : ∀ limit, read limit = .error e) :
    OnlyCuts raise read size nesting under? line := by
  apply of_accepts
  · intro limit a
    simp only [h, reduceCtorEq, false_and]
  · intro limit a _ hRead
    rw [h] at hRead
    cases hRead

theorem of_le {larger : Nat} (h : OnlyCuts raise read size nesting under? line) (hSize : size ≤ larger) :
    OnlyCuts raise read larger nesting under? line := by
  have hSame (a : α) : read larger = .ok a ↔ read size = .ok a :=
    ⟨fun hRead => ((h.accepts larger a).mp hRead).1,
      h.grows size larger a (Int.ofNat_le.mpr hSize)⟩
  apply of_accepts
  · intro limit a
    rw [hSame]
    exact h.accepts limit a
  · intro limit a stop hRead hFault
    exact h.rejects limit a stop ((hSame a).mp hRead) hFault

/-- What holds of a reader holds of one that goes on with its result and with its errors. -/
theorem through {raise' : ParseError → δ} {other : Int → Except δ β} {nesting' : β → Nat}
    {number : Option Int} (h : OnlyCuts raise read size nesting under? line) (f : α → β) (g : ε → δ)
    (hOther : ∀ limit, other limit = ((read limit).map f).mapError g)
    (hNesting : ∀ a, nesting' (f a) = nesting a)
    (hRaise : ∀ fault text, g (raise ⟨fault, text, line⟩) = raise' ⟨fault, text, number⟩) :
    OnlyCuts raise' other size nesting' under? number := by
  have hOk (limit : Int) (b : β) : other limit = .ok b ↔ ∃ a, read limit = .ok a ∧ f a = b := by
    rw [hOther]
    cases read limit with
    | error stop =>
      constructor
      · intro h
        cases h
      · rintro ⟨a, hRead, _⟩
        cases hRead
    | ok a =>
      constructor
      · intro h
        exact ⟨a, rfl, Except.ok.inj h⟩
      · rintro ⟨_, hRead, hSame⟩
        cases hRead
        exact congrArg Except.ok hSame
  apply of_accepts
  · intro limit b
    simp only [hOk]
    constructor
    · rintro ⟨a, hRead, rfl⟩
      obtain ⟨hSize, hFits⟩ := (h.accepts limit a).mp hRead
      exact ⟨⟨a, hSize, rfl⟩, hNesting a ▸ hFits⟩
    · rintro ⟨⟨a, hSize, rfl⟩, hFits⟩
      exact ⟨a, (h.accepts limit a).mpr ⟨hSize, hNesting a ▸ hFits⟩, rfl⟩
  · intro limit b stop hSize hFault
    obtain ⟨a, hRead, rfl⟩ := (hOk size b).mp hSize
    rw [hOther] at hFault
    cases hHere : read limit with
    | ok a =>
      rw [hHere] at hFault
      cases hFault
    | error found =>
      obtain ⟨inner, hInner, rfl⟩ := h.rejects limit a found hRead hHere
      rw [hHere] at hFault
      cases hFault
      exact ⟨inner, hInner, hRaise _ _⟩

/-- What holds of a reader holds of parsing, where the error is raised. -/
theorem raised {read : Int → Except ParseError α} (h : OnlyCuts id read size nesting under? line) :
    OnlyCuts ParseError.raise (fun limit => (read limit).mapError ParseError.raise) size nesting under?
      line := by
  apply h.through id ParseError.raise
  · intro limit
    cases read limit <;> rfl
  · exact fun _ => rfl
  · exact fun _ _ => rfl

end OnlyCuts

namespace Predicate

theorem onlyCuts_readElement (text : List Char) :
    OnlyCuts id (fun limit => readElement limit 0 text) text.length negations (under? · text) none := by
  apply OnlyCuts.of_accepts
  · intro limit p
    constructor
    · intro hRead
      obtain ⟨content, margins, rfl, hComma, hSome, hNesting, rfl⟩ :=
        exists_spelled_of_readElement hRead
      have hSize := length_margins_le content margins
      refine ⟨readElement_spelled hComma hSome (Or.inr (by omega)), ?_⟩
      rw [negations_ofSpelled]
      rcases hNesting with rfl | hNesting
      · exact Int.le_max_right limit 0
      · omega
    · rintro ⟨hRead, hNesting⟩
      obtain ⟨content, margins, rfl, hComma, hSome, _, rfl⟩ := exists_spelled_of_readElement hRead
      rw [negations_ofSpelled] at hNesting
      apply readElement_spelled hComma hSome
      rw [← List.length_eq_zero_iff]
      omega
  · intro limit p e hRead hFault
    obtain ⟨content, margins, rfl, hComma, hSome, _, rfl⟩ := exists_spelled_of_readElement hRead
    have hNot : ¬ (margins = [] ∨ ((0 : Nat) + margins.length : Int) ≤ limit) := by
      intro hNesting
      cases (readElement_spelled hComma hSome hNesting).symm.trans hFault
    obtain ⟨hInner, hDeep⟩ := not_or.mp hNot
    cases (readElement_spelled_fails hComma hInner (by omega)).symm.trans hFault
    refine ⟨_, under?_spelled hComma ?_, ?_⟩
    · omega
    · rw [failure, Int.natCast_zero, Int.sub_zero]
      rfl

theorem onlyCuts_readSite (text : List Char) :
    OnlyCuts id (fun limit => readSite limit text) text.length nesting
      (fun k => (elementText? text).bind (under? k)) none := by
  by_cases hSite : ∃ selector element,
      Call.read? text = some ⟨"element_matches".toList, [selector, element]⟩
  · obtain ⟨selector, element, hCall⟩ := hSite
    have hRead (limit : Int) : readSite limit text =
        ((readElement limit 0 element).map (elementMatches (literal selector))).mapError id := by
      have hCalled : readSite limit text =
          (readElement limit 0 element).map (elementMatches (literal selector)) := by
        rw [readSite, hCall]
        exact if_pos rfl
      rw [hCalled]
      cases readElement limit 0 element <;> rfl
    have hElement : elementText? text = some element := by
      rw [elementText?, hCall]
      rfl
    have hLength : element.length ≤ text.length :=
      Nat.le_of_lt (Call.length_arg_lt hCall (List.mem_cons_of_mem _ List.mem_cons_self))
    rw [hElement]
    exact ((onlyCuts_readElement element).of_le hLength).through _ id hRead (fun _ => rfl)
      (fun _ _ => rfl)
  · -- Whatever else the text is, its fault has nothing to do with the limit.
    cases hCall : Call.read? text with
    | none => exact .of_fails fun limit => by rw [readSite, hCall]
    | some call =>
      refine .of_fails (e := failure .sitePredicate text) fun limit => ?_
      rw [readSite, hCall]
      split
      · rename_i hNone
        cases hNone
      · rename_i hPair
        cases hPair
        exact if_neg fun hName => hSite ⟨_, _, hName ▸ hCall⟩
      · rfl

end Predicate

namespace Spec

/-- The text of the page predicate in a line. -/
def siteText? (line : List Char) : Option (List Char) :=
  match Text.splitAt '|' line with
  | [_, predicate] => some predicate
  | _ => none

theorem onlyCuts_read (number : Option Int) (line : List Char) :
    OnlyCuts id (fun limit => read limit number line) line.length (·.predicate.nesting)
      (fun k => (siteText? line).bind fun text =>
        (Predicate.elementText? text).bind (Predicate.under? k)) number := by
  by_cases hBar : ∃ url predicate, Text.splitAt '|' line = [url, predicate]
  · obtain ⟨url, predicate, hPieces⟩ := hBar
    have hRead (limit : Int) : read limit number line =
        ((Predicate.readSite limit predicate).map (⟨String.ofList url, ·⟩)).mapError
          ({ · with line := number }) := by
      rw [read, hPieces]
      cases hSite : Predicate.readSite limit predicate <;> simp only [hSite] <;> rfl
    have hSite : siteText? line = some predicate := by
      rw [siteText?, hPieces]
    have hLength : predicate.length ≤ line.length :=
      Text.length_le_of_mem_splitAt (hPieces ▸ List.mem_cons_of_mem _ List.mem_cons_self)
    rw [hSite]
    exact ((Predicate.onlyCuts_readSite predicate).of_le hLength).through _ _ hRead (fun _ => rfl)
      (fun _ _ => rfl)
  · refine .of_fails (e := ⟨.spec, String.ofList line, number⟩) fun limit => ?_
    rw [read]
    split
    · rename_i hPieces
      exact absurd ⟨_, _, hPieces⟩ hBar
    · rfl

end Spec

/-- The limit of nested negations only cuts, for element predicates, page predicates and lines. What
it cuts off is blamed on the text under as many negations as are allowed, and on nothing else. The
limit and the number of the line are named in the error, so there is none if they cannot be written. -/
theorem limit_only_cuts (text : List Char) :
    OnlyCuts ParseError.raise (fun limit => Predicate.parseElement limit text) text.length
      Predicate.negations (Predicate.under? · text) none ∧
    OnlyCuts ParseError.raise (fun limit => Predicate.parseSite limit text) text.length
      Predicate.nesting (fun k => (Predicate.elementText? text).bind (Predicate.under? k)) none ∧
    (∀ number, OnlyCuts ParseError.raise (fun limit => Spec.parse limit number text) text.length
      (·.predicate.nesting) (fun k => (Spec.siteText? text).bind fun site =>
        (Predicate.elementText? site).bind (Predicate.under? k)) number) ∧
    ∀ (limit : Int) (inner : String) (line : Option Int),
      let e : ParseError := ⟨.nesting limit, inner, line⟩
      (Text.isLong limit = false → (∀ n ∈ line, Text.isLong n = false) → e.raise = .error e ∧
        e.message = (line.map fun n => "line " ++ toString n ++ ": ").getD "" ++
          ("Predicate nesting deeper than " ++ toString limit ++ " levels: " ++ inner)) ∧
      (Text.isLong limit = true → e.raise = .longNumber) := by
  refine ⟨(Predicate.onlyCuts_readElement text).raised, (Predicate.onlyCuts_readSite text).raised, ?_, ?_⟩
  · intro number
    exact (Spec.onlyCuts_read number text).raised
  · intro limit inner line e
    refine ⟨fun hLimit hLine => ?_, fun hLong => ?_⟩
    · have hWritable : e.isWritable = true := by
        apply ParseError.isWritable_iff.mpr
        refine ⟨?_, hLine⟩
        rintro n ⟨⟩
        exact hLimit
      exact ⟨ParseError.raise_of_isWritable hWritable, ParseError.message_nesting limit inner line⟩
    · exact ParseError.raise_of_long (Or.inl rfl) hLong

/-- Of three negations two are allowed, so the blame is on the third one. -/
theorem limit_only_cuts_third :
    let line := "u|element_matches('p', not(not( not(content_matches('x')))))".toList
    let spec : Spec := ⟨"u", .elementMatches "p" ((Predicate.contentMatches "x").negate 3)⟩
    let e : ParseError := ⟨.nesting 2, "not(content_matches('x'))", some 7⟩
    Spec.parse 3 none line = .ok spec ∧ Spec.parse line.length none line = .ok spec ∧
      Spec.parse 2 (some 7) line = .error (.error e) ∧
      e.message = "line 7: Predicate nesting deeper than 2 levels: not(content_matches('x'))" := by
  intro line spec e
  let blank : Margin := ⟨[' '], [], by decide, by decide⟩
  let tight : Margin := ⟨[], [], by decide, by decide⟩
  let x : Spec.Spelling := ⟨"u".toList, "'p'".toList, blank, [tight, blank, tight], "'x'".toList,
    by decide, by decide, by decide⟩
  have hText : x.text = line := by decide
  have hSpec : x.spec = spec := by decide
  have hBar : x.text.count '|' = 1 := by decide
  have hSize (number : Option Int) : Spec.parse line.length number line = .ok spec := by
    rw [Spec.parse_eq_ok_iff, ← hSpec, ← hText]
    exact Spec.read_spelling number hBar (by decide)
  obtain ⟨_, _, hCuts, hRaises⟩ := limit_only_cuts line
  have hThree : Spec.parse 3 none line = .ok spec :=
    ((hCuts none).accepts 3 spec).mpr ⟨hSize none, by decide⟩
  have hSeven : ∀ n ∈ some (7 : Int), Text.isLong n = false := by
    rintro n ⟨⟩
    exact Text.isLong_of_lt_ten (by decide)
  obtain ⟨hRaise, hMessage⟩ := (hRaises 2 "not(content_matches('x'))" (some 7)).1
    (Text.isLong_of_lt_ten (by decide)) hSeven
  refine ⟨hThree, hSize none, ?_, hMessage⟩
  cases hTwo : Spec.parse 2 (some 7) line with
  | ok found =>
    obtain ⟨hFound, hFits⟩ := ((hCuts (some 7)).accepts 2 found).mp hTwo
    cases hFound.symm.trans (hSize (some 7))
    exact absurd hFits (by decide)
  | error stop =>
    obtain ⟨inner, hInner, hStop⟩ := (hCuts (some 7)).rejects 2 spec stop (hSize (some 7)) hTwo
    have hUnder : inner = "not(content_matches('x'))".toList := by
      apply Option.some.inj
      rw [← hInner]
      decide
    rw [hUnder] at hStop
    exact congrArg Except.error (hStop.trans hRaise)

/-- A text that its own length allows is rejected under a limit that is negative and too long, and no
error comes of that. -/
theorem parseElement_of_long_limit :
    let limit : Int := -(Nat.pow 10 Text.digitLimit : Nat)
    let text := "not(content_matches(x))".toList
    Predicate.parseElement text.length text = .ok (.negation (.contentMatches "x")) ∧
      Predicate.parseElement limit text = .error .longNumber := by
  intro limit text
  let tight : Margin := ⟨[], [], by decide, by decide⟩
  have hText : text = Predicate.spelled ['x'] [tight] := by decide
  have hNegative : limit ≤ 0 := Int.neg_nonpos_of_nonneg (Int.natCast_nonneg _)
  have hLong : Text.isLong limit = true := (Text.isLong_neg _).trans Text.isLong_pow
  constructor
  · rw [Predicate.parseElement_eq_ok_iff, hText]
    exact Predicate.readElement_spelled (by decide) (by decide) (Or.inr (by decide))
  · rw [hText]
    refine ParseError.mapError_raise_eq_error_iff.mpr
      ⟨_, Predicate.readElement_spelled_fails (by decide) (List.cons_ne_nil _ _) ?_, ?_⟩
    · exact Int.lt_of_le_of_lt hNegative (by decide)
    · exact ParseError.raise_of_long (Or.inl rfl) hLong

end PageCheck
