import Mathlib.Data.List.Infix
import PageCheck.Selector.Reader

/-!
# What the readers of selectors leave

Each reader of a piece of a selector leaves an end of its text, so what it takes stands in the text
as it is.
-/

namespace PageCheck.Selector

set_option autoImplicit false

open Text (Code Codes)
open Text.Codes (lowerBasic)

/-- A reader leaves an end of the text. -/
def LeavesEnd (reader : Codes → Option Codes) : Prop :=
  ∀ s rest, reader s = some rest → rest <:+ s

theorem isInfix_taken {s t rest : Codes} (h : t <:+ s) : taken t rest <:+: s :=
  (List.take_prefix _ _).isInfix.trans h.isInfix

theorem space?_leavesEnd : LeavesEnd space? := by
  intro s rest h
  unfold space? at h
  split at h
  · cases h
    exact List.suffix_append [_, _] _
  · split at h
    · cases h
      exact List.suffix_cons _ _
    · cases h
  · cases h

theorem behindComment?_leavesEnd : LeavesEnd behindComment? := by
  intro s rest h
  fun_induction behindComment? s with
  | case1 tail =>
    cases h
    exact List.suffix_append [_, _] _
  | case2 _ _ _ ih => exact (ih h).trans (List.suffix_cons _ _)
  | case3 => cases h

theorem blank?_leavesEnd : LeavesEnd blank? := by
  intro s rest h
  unfold blank? at h
  split at h
  · exact (behindComment?_leavesEnd _ _ h).trans (List.suffix_append [_, _] _)
  · exact space?_leavesEnd _ _ h

theorem skipMany_suffix {reader : Codes → Option Codes} (h : LeavesEnd reader) (s : Codes) :
    skipMany reader s <:+ s := by
  fun_induction skipMany reader s with
  | case1 s rest hRest hShorter ih => exact ih.trans (h s rest hRest)
  | case2 => exact List.suffix_rfl
  | case3 => exact List.suffix_rfl

theorem skipBlanks_suffix (s : Codes) : skipBlanks s <:+ s := skipMany_suffix blank?_leavesEnd s

theorem escapeBody?_leavesEnd (isDigit : Char → Bool) : LeavesEnd (escapeBody? isDigit) := by
  intro s rest h
  unfold escapeBody? at h
  split at h
  · dsimp only at h
    cases h
    cases hSpace : space? (s.drop (digitRun isDigit s).length) with
    | none => exact List.drop_suffix _ _
    | some after => exact (space?_leavesEnd _ _ hSpace).trans (List.drop_suffix _ _)
  · split at h
    · cases h
      exact List.suffix_rfl
    · cases h
      exact List.suffix_rfl
    · split at h
      · cases h
      · cases h
        exact List.suffix_cons _ _

theorem nameStart?_leavesEnd (isDigit : Char → Bool) : LeavesEnd (nameStart? isDigit) := by
  intro s rest h
  unfold nameStart? at h
  split at h
  · exact (escapeBody?_leavesEnd _ _ _ h).trans (List.suffix_cons _ _)
  · split at h
    · cases h
      exact List.suffix_cons _ _
    · cases h
  · cases h

theorem nameChar?_leavesEnd (isDigit : Char → Bool) : LeavesEnd (nameChar? isDigit) := by
  intro s rest h
  unfold nameChar? at h
  split at h
  · exact (escapeBody?_leavesEnd _ _ _ h).trans (List.suffix_cons _ _)
  · split at h
    · cases h
      exact List.suffix_cons _ _
    · cases h
  · cases h

theorem nameWith?_leavesEnd (isDigit : Char → Bool) : LeavesEnd (nameWith? isDigit) := by
  intro s rest h
  unfold nameWith? at h
  dsimp only at h
  obtain ⟨first, hFirst, rfl⟩ := Option.map_eq_some_iff.mp h
  refine (skipMany_suffix (nameChar?_leavesEnd isDigit) first).trans ?_
  split at hFirst
  · cases hFirst
    exact List.suffix_append [_, _] _
  · exact (nameStart?_leavesEnd _ _ _ hFirst).trans (List.suffix_cons _ _)
  · exact nameStart?_leavesEnd _ _ _ hFirst

theorem name?_leavesEnd : LeavesEnd name? := nameWith?_leavesEnd _

theorem stringBody?_leavesEnd (quote : Code) : LeavesEnd (stringBody? quote) := by
  intro s rest h
  fun_induction stringBody? quote s with
  | case1 => cases h
  | case2 tail ih =>
    exact (ih h).trans (List.suffix_append [_, _, _] tail)
  | case3 => cases h
  | case4 c tail _ ih => exact (ih h).trans (List.suffix_append [_, c] tail)
  | case5 =>
    cases h
    exact List.suffix_cons _ _
  | case6 => cases h
  | case7 c tail _ _ _ _ _ ih => exact (ih h).trans (List.suffix_cons _ _)

theorem valueWith?_leavesEnd (isDigit : Char → Bool) : LeavesEnd (valueWith? isDigit) := by
  intro s rest h
  unfold valueWith? at h
  split at h
  · exact (stringBody?_leavesEnd _ _ _ h).trans (List.suffix_cons _ _)
  · exact (stringBody?_leavesEnd _ _ _ h).trans (List.suffix_cons _ _)
  · exact nameWith?_leavesEnd _ _ _ h

theorem value?_leavesEnd : LeavesEnd value? := valueWith?_leavesEnd _

theorem char?_leavesEnd (c : Code) : LeavesEnd (char? c) := by
  intro s rest h
  unfold char? at h
  split at h
  · split at h
    · cases h
      exact List.suffix_cons _ _
    · cases h
  · cases h

theorem close?_leavesEnd : LeavesEnd close? := fun s rest h =>
  (char?_leavesEnd _ _ rest h).trans (skipBlanks_suffix s)

theorem bracket?_leavesEnd : LeavesEnd bracket? := fun s rest h =>
  (char?_leavesEnd _ _ rest h).trans (skipBlanks_suffix s)

theorem comma?_leavesEnd : LeavesEnd comma? := by
  intro s rest h
  obtain ⟨after, hAfter, rfl⟩ := Option.map_eq_some_iff.mp h
  exact (skipBlanks_suffix after).trans ((char?_leavesEnd _ _ _ hAfter).trans (skipBlanks_suffix s))

theorem values?_leavesEnd : LeavesEnd values? := by
  intro s rest h
  obtain ⟨first, hFirst, rfl⟩ := Option.map_eq_some_iff.mp h
  refine (skipMany_suffix ?_ first).trans (value?_leavesEnd _ _ hFirst)
  intro t more hMore
  obtain ⟨behind, hComma, hValue⟩ := Option.bind_eq_some_iff.mp hMore
  exact (value?_leavesEnd _ _ hValue).trans (comma?_leavesEnd _ _ hComma)

theorem nameOrStar?_leavesEnd : LeavesEnd nameOrStar? := by
  intro s rest h
  unfold nameOrStar? at h
  split at h
  · cases h
    exact List.suffix_cons _ _
  · exact name?_leavesEnd _ _ h

theorem word?_leavesEnd (word : String) : LeavesEnd (word? word) := by
  intro s rest h
  unfold word? at h
  split at h
  · cases h
    exact List.drop_suffix _ _
  · cases h

theorem offset?_leavesEnd : LeavesEnd offset? := by
  intro s rest h
  unfold offset? at h
  split at h
  · rename_i c more hMore
    split at h
    · dsimp only at h
      split at h
      · cases h
      · cases h
        have hBehind : more <:+ s :=
          (List.suffix_cons c more).trans (hMore ▸ skipBlanks_suffix s)
        exact (List.dropWhile_suffix _).trans ((skipBlanks_suffix more).trans hBehind)
    · cases h
  · cases h

theorem skipSign_suffix (s : Codes) : skipSign s <:+ s := by
  unfold skipSign
  split
  · split
    · exact List.suffix_cons _ _
    · exact List.suffix_rfl
  · exact List.suffix_rfl

theorem formula?_leavesEnd : LeavesEnd formula? := by
  intro s rest h
  unfold formula? at h
  dsimp only at h
  have hDigits : (skipSign s).dropWhile isDigit <:+ s :=
    (List.dropWhile_suffix _).trans (skipSign_suffix s)
  split at h
  · rename_i after hWord
    have hAfter : after <:+ s := (word?_leavesEnd _ _ _ hWord).trans hDigits
    cases h
    cases hOffset : offset? after with
    | none => exact hAfter
    | some more => exact (offset?_leavesEnd _ _ hOffset).trans hAfter
  · split at h
    · cases h
    · cases h
      exact hDigits

theorem placeText?_leavesEnd : LeavesEnd placeText? := by
  intro s rest h
  unfold placeText? at h
  split at h
  · rename_i after hFormula
    cases h
    exact formula?_leavesEnd _ _ hFormula
  · rcases Option.or_eq_some_iff.mp h with hEven | ⟨_, hOdd⟩
    · exact word?_leavesEnd _ _ _ hEven
    · exact word?_leavesEnd _ _ _ hOdd

theorem skipComments_suffix (s : Codes) : skipComments s <:+ s := by
  apply skipMany_suffix
  intro t rest h
  dsimp only at h
  split at h
  · exact (behindComment?_leavesEnd _ _ h).trans (List.suffix_append [_, _] _)
  · cases h

theorem restriction?_leavesEnd : LeavesEnd restriction? := by
  intro s rest h
  obtain ⟨a, hSpace, h⟩ := Option.bind_eq_some_iff.mp h
  obtain ⟨b, hWord, h⟩ := Option.bind_eq_some_iff.mp h
  obtain ⟨c, hOther, h⟩ := Option.bind_eq_some_iff.mp h
  cases h
  have hFirst : a <:+ s := (space?_leavesEnd _ _ hSpace).trans (skipComments_suffix s)
  have hBehind : b <:+ s := (word?_leavesEnd _ _ _ hWord).trans ((skipBlanks_suffix a).trans hFirst)
  have hLast : c <:+ s :=
    (space?_leavesEnd _ _ hOther).trans ((skipComments_suffix b).trans hBehind)
  exact (skipBlanks_suffix c).trans hLast

theorem sign?_suffix {s rest : Codes} {c : Code} (h : sign? s = some (c, rest)) : rest <:+ s := by
  unfold sign? at h
  split at h
  · split at h
    · cases h
      exact List.suffix_cons _ _
    · cases h
  · cases h

theorem combinator?_suffix {s rest : Codes} {c : Code} (h : combinator? s = some (c, rest)) :
    rest <:+ s := by
  fun_induction combinator? s with
  | case1 s hNone =>
    obtain ⟨⟨sign, after⟩, hSign, hPair⟩ := Option.map_eq_some_iff.mp h
    cases hPair
    exact (skipBlanks_suffix after).trans (sign?_suffix hSign)
  | case2 s after hBlank hShorter hSpace =>
    cases h
    exact (skipBlanks_suffix after).trans (blank?_leavesEnd _ _ hBlank)
  | case3 s after hBlank hShorter hSpace ih => exact (ih h).trans (blank?_leavesEnd _ _ hBlank)

theorem isInfix_of_spacePart? {s space rest : Codes} (h : spacePart? s = some (space, rest)) :
    rest <:+ s ∧ space <:+: s := by
  obtain ⟨after, hBar, hEq⟩ := Option.map_eq_some_iff.mp h
  cases hEq
  refine ⟨(char?_leavesEnd _ _ _ hBar).trans ?_, isInfix_taken List.suffix_rfl⟩
  cases hName : nameOrStar? s with
  | none => exact List.suffix_rfl
  | some body => exact nameOrStar?_leavesEnd _ _ hName

theorem isInfix_of_qualified? {last : Codes → Option Codes} (hLast : LeavesEnd last)
    {s name rest : Codes} {space : Option Codes} (h : qualified? last s = some (space, name, rest)) :
    rest <:+ s ∧ name <:+: s ∧ ∀ t ∈ space, t <:+: s := by
  have hPlain (hHere : ((last s).map fun rest => (none, taken s rest, rest)) =
      some (space, name, rest)) : rest <:+ s ∧ name <:+: s ∧ ∀ t ∈ space, t <:+: s := by
    obtain ⟨after, hAfter, hEq⟩ := Option.map_eq_some_iff.mp hHere
    cases hEq
    exact ⟨hLast _ _ hAfter, isInfix_taken List.suffix_rfl, by simp⟩
  unfold qualified? at h
  dsimp only at h
  split at h
  · rename_i before after hSpace
    split at h
    · rename_i behind hBehind
      cases h
      obtain ⟨hAfter, hBefore⟩ := isInfix_of_spacePart? hSpace
      exact ⟨(hLast _ _ hBehind).trans hAfter, isInfix_taken hAfter, by simpa using hBefore⟩
    · exact hPlain h
  · exact hPlain h

theorem comparison?_suffix {s sign rest : Codes} (h : comparison? s = some (sign, rest)) :
    rest <:+ s := by
  unfold comparison? at h
  split at h
  · cases h
    exact List.suffix_cons _ _
  · split at h
    · cases h
      exact List.suffix_append [_, _] _
    · cases h
  · cases h

theorem marked?_suffix {s rest : Codes} {c : Code} (h : marked? s = some (c, rest)) : rest <:+ s := by
  unfold marked? at h
  split at h
  · rename_i d more hMore
    split at h
    · obtain ⟨after, hBracket, hEq⟩ := Option.map_eq_some_iff.mp h
      cases hEq
      have hBehind : more <:+ s := (List.suffix_cons c more).trans (hMore ▸ skipBlanks_suffix s)
      exact (bracket?_leavesEnd _ _ hBracket).trans hBehind
    · cases h
  · cases h

theorem takeSign_suffix (s : Codes) : (takeSign s).2 <:+ s := by
  unfold takeSign
  split
  · split
    · exact List.suffix_cons _ _
    · exact List.suffix_rfl
  · exact List.suffix_rfl

theorem isInfix_of_mem_valuesIn {s v : Codes} (h : v ∈ valuesIn s) : v <:+: s := by
  fun_induction valuesIn s with
  | case1 => cases h
  | case2 c tail rest hValue hShorter ih =>
    rcases List.mem_cons.mp h with rfl | hMore
    · exact isInfix_taken List.suffix_rfl
    · exact (ih hMore).trans (valueWith?_leavesEnd _ _ _ hValue).isInfix
  | case3 c tail rest hValue hLonger ih => exact (ih h).trans (List.suffix_cons c tail).isInfix
  | case4 c tail rest hComma hNone hShorter ih =>
    exact (ih h).trans (comma?_leavesEnd _ _ hComma).isInfix
  | case5 c tail rest hComma hNone hLonger ih => exact (ih h).trans (List.suffix_cons c tail).isInfix
  | case6 c tail hNone hOther ih => exact (ih h).trans (List.suffix_cons c tail).isInfix

end PageCheck.Selector
