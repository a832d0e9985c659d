import PageCheck.Predicate.Call
import PageCheck.Proofs.Text.Run
import PageCheck.Proofs.Text.Split
import PageCheck.Proofs.Text.Strip

/-!
# The texts that are calls

A text is a call exactly if it is a name and a body written in parentheses, and then name and body
are unique: the name ends at the first parenthesis, the body at the last character. What is in the
body plays no part in this.
-/

namespace PageCheck.Call

set_option autoImplicit false

def written (name body : List Char) : List Char := name ++ '(' :: (body ++ [')'])

theorem beforeClose?_eq_some_iff {s body : List Char} :
    beforeClose? s = some body ↔ s = body ++ [')'] := by
  constructor
  · intro h
    unfold beforeClose? at h
    split at h
    · rename_i rest hRest
      cases h
      rw [← List.reverse_reverse s, hRest, List.reverse_cons]
    · cases h
  · rintro rfl
    simp [beforeClose?]

theorem isNameChar_open : isNameChar '(' = false := by decide

theorem takeWhile_written {name : List Char} (hName : ∀ c ∈ name, isNameChar c = true)
    (rest : List Char) : (name ++ '(' :: rest).takeWhile isNameChar = name := by
  apply Text.takeWhile_run hName
  rintro c hFirst
  cases hFirst
  exact isNameChar_open

theorem dropWhile_written {name : List Char} (hName : ∀ c ∈ name, isNameChar c = true)
    (rest : List Char) : (name ++ '(' :: rest).dropWhile isNameChar = '(' :: rest := by
  apply Text.dropWhile_run hName
  rintro c hFirst
  cases hFirst
  exact isNameChar_open

theorem written_inj {name other body rest : List Char} (hName : ∀ c ∈ name, isNameChar c = true)
    (hOther : ∀ c ∈ other, isNameChar c = true) (h : written name body = written other rest) :
    name = other ∧ body = rest := by
  have hOpen (s : List Char) : ∀ c ∈ ('(' :: s).head?, isNameChar c = false := by
    rintro c hFirst
    cases hFirst
    exact isNameChar_open
  obtain ⟨hSame, hBody⟩ := Text.append_inj_of_run hName hOther (hOpen _) (hOpen _) h
  exact ⟨hSame, List.append_cancel_right (List.tail_eq_of_cons_eq hBody)⟩

theorem parts?_eq_some_iff {text name body : List Char} :
    parts? text = some (name, body) ↔
      text = written name body ∧ name ≠ [] ∧ (∀ c ∈ name, isNameChar c = true) ∧ body ≠ [] := by
  constructor
  · intro h
    unfold parts? at h
    split at h
    · rename_i rest hRest
      split at h
      · rename_i inner hInner
        split at h
        · cases h
        · rename_i hSome
          cases h
          simp only [Bool.or_eq_true, List.isEmpty_iff, not_or] at hSome
          refine ⟨?_, hSome.1, List.all_eq_true.mp List.all_takeWhile, hSome.2⟩
          rw [written, ← beforeClose?_eq_some_iff.mp hInner, ← hRest, List.takeWhile_append_dropWhile]
      · cases h
    · cases h
  · rintro ⟨rfl, hName, hChars, hBody⟩
    have hClose : beforeClose? (body ++ [')']) = some body := beforeClose?_eq_some_iff.mpr rfl
    simp only [parts?, written, takeWhile_written hChars, dropWhile_written hChars, hClose]
    simp [hName, hBody]

theorem read?_written {name body : List Char} (hName : name ≠ [])
    (hChars : ∀ c ∈ name, isNameChar c = true) (hBody : body ≠ []) :
    read? (written name body) = some ⟨name, argsOf body⟩ := by
  rw [read?, parts?_eq_some_iff.mpr ⟨rfl, hName, hChars, hBody⟩]
  rfl

theorem read?_eq_some_iff {text name : List Char} {args : List (List Char)} :
    read? text = some ⟨name, args⟩ ↔ ∃ body, text = written name body ∧ name ≠ [] ∧
      (∀ c ∈ name, isNameChar c = true) ∧ body ≠ [] ∧ args = argsOf body := by
  constructor
  · intro h
    obtain ⟨⟨found, body⟩, hParts, hCall⟩ := Option.map_eq_some_iff.mp h
    obtain ⟨rfl, rfl⟩ := Call.mk.inj hCall
    obtain ⟨hText, hName, hChars, hBody⟩ := parts?_eq_some_iff.mp hParts
    exact ⟨body, hText, hName, hChars, hBody, rfl⟩
  · rintro ⟨body, rfl, hName, hChars, hBody, rfl⟩
    exact read?_written hName hChars hBody

theorem isBlank_of_isNameChar {c : Char} (h : isNameChar c = true) : Text.isBlank c = false := by
  rcases Bool.or_eq_true_iff.mp h with hAlphanum | hMark
  · exact Text.isBlank_of_isAlphanum hAlphanum
  · rw [beq_iff_eq.mp hMark]
    decide

theorem strip_written {name : List Char} (hName : name ≠ [])
    (hChars : ∀ c ∈ name, isNameChar c = true) (body : List Char) :
    Text.strip (written name body) = written name body := by
  obtain ⟨first, more, rfl⟩ := List.exists_cons_of_ne_nil hName
  have hFirst : Text.isBlank first = false := isBlank_of_isNameChar (hChars first List.mem_cons_self)
  have hText : written (first :: more) body = first :: ((more ++ '(' :: body) ++ [')']) := by
    simp [written]
  rw [hText, Text.strip_of_ends hFirst (by decide)]

theorem length_argsOf (body : List Char) : (argsOf body).length = body.count ',' + 1 := by
  rw [argsOf, List.length_map, Text.length_splitAt]

theorem argsOf_of_notMem {body : List Char} (h : ',' ∉ body) :
    argsOf body = [Text.strip body] := by
  rw [argsOf, Text.splitAt_of_notMem h]
  rfl

theorem argsOf_append {first : List Char} (h : ',' ∉ first) (rest : List Char) :
    argsOf (first ++ ',' :: rest) = Text.strip first :: argsOf rest := by
  rw [argsOf, Text.splitAt_append h]
  rfl

theorem argsOf_eq_singleton_iff {body arg : List Char} :
    argsOf body = [arg] ↔ ',' ∉ body ∧ arg = Text.strip body := by
  constructor
  · intro h
    have hLength := length_argsOf body
    rw [h, List.length_singleton] at hLength
    have hComma : ',' ∉ body := List.count_eq_zero.mp (by omega)
    rw [argsOf_of_notMem hComma] at h
    exact ⟨hComma, (List.singleton_inj.mp h).symm⟩
  · rintro ⟨hComma, rfl⟩
    exact argsOf_of_notMem hComma

theorem argsOf_eq_pair_iff {body first second : List Char} :
    argsOf body = [first, second] ↔ ∃ s t, body = s ++ ',' :: t ∧ ',' ∉ s ∧ ',' ∉ t ∧
      first = Text.strip s ∧ second = Text.strip t := by
  constructor
  · intro h
    obtain ⟨s, rest, hPieces, rfl, hRest⟩ := List.map_eq_cons_iff.mp h
    obtain ⟨t, rfl, rfl⟩ := List.map_eq_singleton_iff.mp hRest
    obtain ⟨hBody, hFirst, hSecond⟩ := Text.splitAt_eq_pair_iff.mp hPieces
    exact ⟨s, t, hBody, hFirst, hSecond, rfl, rfl⟩
  · rintro ⟨s, t, rfl, hFirst, hSecond, rfl, rfl⟩
    rw [argsOf_append hFirst, argsOf_of_notMem hSecond]

end PageCheck.Call
