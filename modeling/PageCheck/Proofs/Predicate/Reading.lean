import PageCheck.Predicate.Reader
import PageCheck.Proofs.Predicate.Call

/-!
# Reading calls as predicates

What the readers make of a call depends on its name and on the commas in its body alone. A body
with a comma is never the body of an element predicate, and a page predicate needs exactly one.
-/

namespace PageCheck.Predicate

set_option autoImplicit false

open Call (written argsOf)

variable {limit : Int} {depth : Nat}

/-- The reader of element predicates without the bookkeeping of its recursion. -/
theorem readElement_eq (limit : Int) (depth : Nat) (text : List Char) :
    readElement limit depth text =
      match Call.read? text with
      | none => .error (failure .call text)
      | some ⟨name, [arg]⟩ =>
        if name = "content_matches".toList then .ok (contentMatches (literal arg))
        else if name = "not".toList then
          if limit ≤ depth then .error (failure (.nesting limit) text)
          else (readElement limit (depth + 1) arg).map negation
        else .error (failure .elementPredicate text)
      | some _ => .error (failure .elementPredicate text) := by
  rw [readElement]
  split
  · rename_i hNone
    rw [hNone]
  · rename_i name args hSome
    rcases args with _ | ⟨arg, _ | ⟨second, more⟩⟩
    · simp only [hSome]
    · simp only [hSome]
    · simp only [hSome]

theorem readElement_content {body : List Char} (hBody : body ≠ []) (hComma : ',' ∉ body) :
    readElement limit depth (written "content_matches".toList body) =
      .ok (contentMatches (literal (Text.strip body))) := by
  rw [readElement_eq, Call.read?_written (by decide) (by decide) hBody, Call.argsOf_of_notMem hComma]
  exact if_pos rfl

theorem readElement_negation {body : List Char} (hBody : body ≠ []) (hComma : ',' ∉ body) :
    readElement limit depth (written "not".toList body) =
      if limit ≤ depth then .error (failure (.nesting limit) (written "not".toList body))
      else (readElement limit (depth + 1) (Text.strip body)).map negation := by
  rw [readElement_eq, Call.read?_written (by decide) (by decide) hBody, Call.argsOf_of_notMem hComma]
  exact (if_neg (by decide)).trans (if_pos rfl)

theorem readElement_of_comma {name body : List Char} (hName : name ≠ [])
    (hChars : ∀ c ∈ name, Call.isNameChar c = true) (hComma : ',' ∈ body) :
    readElement limit depth (written name body) =
      .error (failure .elementPredicate (written name body)) := by
  have hBody : body ≠ [] := List.ne_nil_of_mem hComma
  have hCount : 0 < body.count ',' := List.count_pos_iff.mpr hComma
  have hLength := Call.length_argsOf body
  rw [readElement_eq, Call.read?_written hName hChars hBody]
  split
  · rename_i hNone
    cases hNone
  · rename_i arg hOne
    have hArgs : argsOf body = [arg] := congrArg Call.args (Option.some.inj hOne)
    rw [hArgs, List.length_singleton] at hLength
    omega
  · rfl

theorem readSite_written {selector element : List Char} (hSelector : ',' ∉ selector)
    (hElement : ',' ∉ element) :
    readSite limit (written "element_matches".toList (selector ++ ',' :: element)) =
      (readElement limit 0 (Text.strip element)).map
        (elementMatches (literal (Text.strip selector))) := by
  rw [readSite, Call.read?_written (by decide) (by decide) (by simp), Call.argsOf_append hSelector,
    Call.argsOf_of_notMem hElement]
  exact if_pos rfl

theorem readSite_of_commas {name body : List Char} (hName : name ≠ [])
    (hChars : ∀ c ∈ name, Call.isNameChar c = true) (hBody : body ≠ [])
    (hCommas : body.count ',' ≠ 1) :
    readSite limit (written name body) = .error (failure .sitePredicate (written name body)) := by
  have hLength := Call.length_argsOf body
  rw [readSite, Call.read?_written hName hChars hBody]
  split
  · rename_i hNone
    cases hNone
  · rename_i selector element hTwo
    have hArgs : argsOf body = [selector, element] := congrArg Call.args (Option.some.inj hTwo)
    rw [hArgs, List.length_cons, List.length_singleton] at hLength
    omega
  · rfl

theorem isSite_of_readSite {text : List Char} {p : Predicate} (h : readSite limit text = .ok p) :
    p.IsSite := by
  unfold readSite at h
  split at h
  · cases h
  · rename_i name selector element _
    split at h
    · cases hElement : readElement limit 0 element with
      | error e =>
        rw [hElement] at h
        cases h
      | ok q =>
        rw [hElement] at h
        cases h
        exact isElement_of_readElement hElement
    · cases h
  · cases h

end PageCheck.Predicate

namespace PageCheck.Spec

theorem read_eq_ok_iff {limit : Int} {number : Option Int} {line : List Char} {spec : Spec} :
    read limit number line = .ok spec ↔ ∃ text, line = spec.url.toList ++ '|' :: text ∧
      '|' ∉ spec.url.toList ∧ '|' ∉ text ∧ Predicate.readSite limit text = .ok spec.predicate := by
  constructor
  · intro h
    unfold read at h
    split at h
    · rename_i url text hPieces
      obtain ⟨rfl, hUrl, hText⟩ := Text.splitAt_eq_pair_iff.mp hPieces
      split at h
      · rename_i hSite
        cases h
        simp only [String.toList_ofList]
        exact ⟨text, rfl, hUrl, hText, hSite⟩
      · cases h
    · cases h
  · rintro ⟨text, rfl, hUrl, hText, hSite⟩
    rw [read, Text.splitAt_eq_pair_iff.mpr ⟨rfl, hUrl, hText⟩]
    simp only [hSite, String.ofList_toList]

end PageCheck.Spec
