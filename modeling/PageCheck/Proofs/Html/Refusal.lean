import Mathlib.Data.List.TakeWhile
import PageCheck.Html.Token.Scan
import PageCheck.Proofs.Html.Reference

/-!
# Pages that are refused

Three kinds of markup end the reading of a page: a marked section whose keyword is unknown or
missing, a numeric reference with too many digits, and a start tag with such a reference in a value.
A page is refused exactly if one of them stands where the reading of it comes to.
-/

namespace PageCheck.Html

set_option autoImplicit false

namespace Tag

/-- The attributes of the tag at the front of a text as they are written, and the text behind them. -/
def written (s : List Char) : List RawAttribute × List Char :=
  let after := s.dropWhile isNameChar
  readAttributes ((skipGap after).length < after.length || endsInQuote (s.takeWhile isNameChar))
    (skipGap after)

/-- Whether what follows the attributes of a tag completes it, or breaks it off. -/
def EndsTag (rest : List Char) : Prop :=
  (∃ more, rest = '/' :: '>' :: more) ∨
    ∃ c more, rest = c :: more ∧ c ≠ '=' ∧ c ≠ '/' ∧ isLetter c = false

def HasLongValue (a : RawAttribute) : Prop := ∃ v ∈ a.value, Entity.HasLongReference v

/-- A tag that is read up to an end of it, with a value that cannot be decoded. -/
def Refused (s : List Char) : Prop := EndsTag (written s).2 ∧ ∃ a ∈ (written s).1, HasLongValue a

theorem value_fails_iff {a : RawAttribute} :
    (∃ fault, Entity.decodeValue (a.value.getD []) = .error fault) ↔ HasLongValue a := by
  rw [HasLongValue]
  cases hValue : a.value with
  | none =>
    constructor
    · rintro ⟨fault, hError⟩
      rw [Option.getD_none, Entity.decodeValue] at hError
      cases hError
    · rintro ⟨v, hNone, _⟩
      cases hNone
  | some v =>
    rw [Option.getD_some, Entity.decodeValue_fails_iff]
    constructor
    · intro hLong
      exact ⟨v, rfl, hLong⟩
    · rintro ⟨w, hSome, hLong⟩
      cases hSome
      exact hLong

theorem decodeAttributes_fails_iff (done : List (List Char × List Char)) {raw : List RawAttribute} :
    (∃ fault, decodeAttributes done raw = .error fault) ↔ ∃ a ∈ raw, HasLongValue a := by
  induction raw generalizing done with
  | nil =>
    constructor
    · rintro ⟨fault, hError⟩
      cases hError
    · rintro ⟨a, hMem, _⟩
      cases hMem
  | cons a rest ih =>
    simp only [List.mem_cons, exists_eq_or_imp]
    rw [← value_fails_iff, decodeAttributes]
    cases hValue : Entity.decodeValue (a.value.getD []) with
    | error fault => exact ⟨fun _ => Or.inl ⟨fault, rfl⟩, fun _ => ⟨fault, rfl⟩⟩
    | ok v =>
      rw [or_iff_right ok_succeeds]
      exact ih _

theorem read_eq (s : List Char) :
    read s = match (written s).2 with
      | '>' :: rest => (decodeAttributes [] (written s).1).map fun attributes =>
          .tag ⟨Text.lower (s.takeWhile isNameChar), attributes, false⟩ rest
      | '/' :: '>' :: rest => (decodeAttributes [] (written s).1).map fun attributes =>
          .tag ⟨Text.lower (s.takeWhile isNameChar), attributes, true⟩ rest
      | [] => .ok .unfinished
      | c :: _ =>
        if c == '=' || c == '/' || isLetter c then .ok .unfinished
        else (decodeAttributes [] (written s).1).map fun _ => .broken (written s).2 := by
  rw [read]
  rfl

theorem read_fails_iff {s : List Char} : (∃ fault, read s = .error fault) ↔ Refused s := by
  rw [read_eq, Refused, ← decodeAttributes_fails_iff []]
  split
  · rename_i rest hRest
    have hEnds : EndsTag (written s).2 :=
      Or.inr ⟨'>', rest, hRest, by decide, by decide, by decide⟩
    rw [map_fails_iff, and_iff_right hEnds]
  · rename_i rest hRest
    have hEnds : EndsTag (written s).2 := Or.inl ⟨rest, hRest⟩
    rw [map_fails_iff, and_iff_right hEnds]
  · rename_i hRest
    have hEnds : ¬ EndsTag (written s).2 := by
      rw [hRest]
      rintro (⟨more, hEq⟩ | ⟨c, more, hEq, _⟩)
      · cases hEq
      · cases hEq
    exact iff_of_false ok_succeeds fun h => hEnds h.1
  · rename_i c rest hClose hSlash hRest
    split
    · rename_i hGoesOn
      have hEnds : ¬ EndsTag (written s).2 := by
        rw [hRest]
        rintro (⟨more, hEq⟩ | ⟨d, more, hEq, hSign, hOther, hLetter⟩)
        · cases hEq
          exact hSlash more rfl rfl
        · cases hEq
          simp [hSign, hOther, hLetter] at hGoesOn
      exact iff_of_false ok_succeeds fun h => hEnds h.1
    · rename_i hBreaks
      have hEnds : EndsTag (written s).2 := by
        refine Or.inr ⟨c, rest, hRest, ?_⟩
        simpa [and_assoc] using hBreaks
      rw [map_fails_iff, and_iff_right hEnds]

end Tag

namespace Token

open Text (isBlank isHexDigit)

/-- The inside of a marked section without a name, or with a complete name that is no keyword. -/
inductive RefusedSection : List Char → Prop where
  | name {c : Char} {rest : List Char} (hName : Tag.isLetter c = false) : RefusedSection (c :: rest)
  | keyword {c : Char} {word after : List Char} (hLetter : Tag.isLetter c = true)
      (hWord : ∀ d ∈ word, isKeywordChar d = true) (hEnd : ∀ d ∈ after.head?, isKeywordChar d = false)
      (hMore : ∃ d ∈ after, isBlank d = false)
      (hSection : Text.lowerBasic (c :: word) ∉ sectionKeywords)
      (hCondition : Text.lowerBasic (c :: word) ∉ conditionKeywords) :
      RefusedSection (c :: (word ++ after))

/-- The number of a reference with too many digits, and a character that ends it. -/
def RefusedNumber (body : List Char) : Prop :=
  ∃ digits c rest, body = digits ++ c :: rest ∧ (∀ d ∈ digits, d.isDigit = true) ∧
    Text.digitLimit < digits.length ∧ isHexDigit c = false

/-- Markup at the front of a text that a page must not hold. -/
inductive Refused : List Char → Prop where
  | marked {body : List Char} (hSection : RefusedSection body) : Refused ('<' :: '!' :: '[' :: body)
  | number {body : List Char} (hNumber : RefusedNumber body) : Refused ('&' :: '#' :: body)
  | tag {c : Char} {rest : List Char} (hLetter : Tag.isLetter c = true)
      (hTag : Tag.Refused (c :: rest)) : Refused ('<' :: c :: rest)

theorem skipBlanks_isEmpty_iff {s : List Char} :
    (skipBlanks s).isEmpty = true ↔ ¬ ∃ d ∈ s, isBlank d = false := by
  rw [skipBlanks, List.isEmpty_iff, List.dropWhile_eq_nil_iff]
  simp

theorem isKeywordChar_of_isLetter {c : Char} (h : Tag.isLetter c = true) : isKeywordChar c = true := by
  rw [Tag.isLetter] at h
  simp [isKeywordChar, Char.isAlphanum, h]

theorem markedSection_fails_iff {final : Bool} {s body : List Char} :
    (∃ fault, markedSection final s body = .error fault) ↔ RefusedSection body := by
  cases body with
  | nil =>
    constructor
    · rintro ⟨fault, hError⟩
      cases hError
    · intro h
      cases h
  | cons c more =>
    rw [markedSection]
    by_cases hLetter : Tag.isLetter c = true
    · have hKeyword := isKeywordChar_of_isLetter hLetter
      simp only [if_pos hLetter, List.takeWhile_cons_of_pos hKeyword,
        List.dropWhile_cons_of_pos hKeyword, skipBlanks_isEmpty_iff, List.contains_iff_mem]
      constructor
      · rintro ⟨fault, hError⟩
        split at hError
        · cases hError
        · rename_i hMore
          split at hError
          · split at hError <;> cases hError
          · rename_i hSection
            split at hError
            · split at hError <;> cases hError
            · rename_i hCondition
              have hRefused := RefusedSection.keyword hLetter
                (fun _ => Text.holds_of_mem_takeWhile (s := more))
                (fun _ => Text.fails_of_mem_head?_dropWhile) (not_not.mp hMore) hSection hCondition
              rwa [List.takeWhile_append_dropWhile] at hRefused
      · intro h
        cases h with
        | name hName => exact absurd hName (by simp [hLetter])
        | keyword _ hWord hEnd hMore hSection hCondition =>
          rw [Text.takeWhile_run hWord hEnd, Text.dropWhile_run hWord hEnd, if_neg (not_not_intro hMore),
            if_neg hSection, if_neg hCondition]
          exact ⟨_, rfl⟩
    · rw [if_neg hLetter]
      exact ⟨fun _ => .name (by simpa using hLetter), fun _ => ⟨_, rfl⟩⟩

theorem declaration_fails_iff {final : Bool} {s rest : List Char} :
    (∃ fault, declaration final s rest = .error fault) ↔
      ∃ body, rest = '[' :: body ∧ RefusedSection body := by
  rw [declaration.eq_def]
  split
  · refine iff_of_false ok_succeeds ?_
    rintro ⟨body, hBody, _⟩
    cases hBody
  · rename_i body
    rw [markedSection_fails_iff]
    constructor
    · intro h
      exact ⟨body, rfl, h⟩
    · rintro ⟨other, hBody, h⟩
      cases hBody
      exact h
  · rename_i hSection
    have hNone : ¬ ∃ body, rest = '[' :: body ∧ RefusedSection body := by
      rintro ⟨body, hBody, _⟩
      exact hSection body hBody
    split
    · exact iff_of_false ok_succeeds hNone
    · exact iff_of_false ok_succeeds hNone

theorem numericParts_hexadecimal {c : Char} (h : c = 'x' ∨ c = 'X') (more : List Char) :
    numericParts (c :: more) = ([c], more.takeWhile isHexDigit) := by
  simp [numericParts, h]

theorem numericParts_decimal {body : List Char} (h : ∀ c ∈ body.head?, ¬ (c = 'x' ∨ c = 'X')) :
    numericParts body = ([], body.takeWhile Char.isDigit) := by
  cases body with
  | nil => rfl
  | cons c more => simp [numericParts, h c rfl]

theorem cut_succeeds (s body : List Char) : ¬ ∃ fault, numericReference.cut s body = .error fault := by
  rintro ⟨fault, hError⟩
  unfold numericReference.cut at hError
  split at hError <;> cases hError

theorem isDigit_of_isHexDigit_eq_false {c : Char} (h : isHexDigit c = false) : c.isDigit = false := by
  by_contra hDigit
  rw [Bool.not_eq_false] at hDigit
  simp [isHexDigit, Text.hexValue?, hDigit] at h

theorem not_refusedNumber_of_mark {c : Char} {more : List Char} (h : c = 'x' ∨ c = 'X') :
    ¬ RefusedNumber (c :: more) := by
  rintro ⟨digits, d, rest, hBody, hDigits, hLong, _⟩
  cases digits with
  | nil => cases hLong
  | cons first others =>
    cases hBody
    have hFirst := hDigits c List.mem_cons_self
    rcases h with rfl | rfl
    · cases hFirst
    · cases hFirst

theorem numericReference_fails_iff {s body : List Char} :
    (∃ fault, numericReference s body = .error fault) ↔ RefusedNumber body := by
  rcases Entity.number_cases body with ⟨c, more, hMark, rfl⟩ | hMark
  · -- Numbers to base sixteen have no limit.
    refine iff_of_false ?_ (not_refusedNumber_of_mark hMark)
    simp only [numericReference, numericParts_hexadecimal hMark, List.singleton_append,
      Entity.referenceNumber_hexadecimal hMark]
    split
    · split
      · exact cut_succeeds _ _
      · rintro ⟨fault, hError⟩
        cases hError
    · exact cut_succeeds _ _
  · simp only [numericReference, numericParts_decimal hMark, List.length_nil, Nat.zero_add,
      List.nil_append, Text.drop_length_takeWhile]
    constructor
    · rintro ⟨fault, hError⟩
      split at hError
      · rename_i c rest hRest
        split at hError
        · exact absurd ⟨fault, hError⟩ (cut_succeeds _ _)
        · rename_i hGoesOn
          rw [Bool.or_eq_true, not_or, List.isEmpty_iff, Bool.not_eq_true] at hGoesOn
          have hDigits : ∀ d ∈ body.takeWhile Char.isDigit, d.isDigit = true :=
            fun _ => Text.holds_of_mem_takeWhile
          refine ⟨body.takeWhile Char.isDigit, c, rest, ?_, hDigits, ?_, hGoesOn.2⟩
          · rw [← hRest, List.takeWhile_append_dropWhile]
          · by_contra hShort
            rw [Entity.referenceNumber_decimal hDigits hGoesOn.1, if_neg hShort] at hError
            cases hError
      · exact absurd ⟨fault, hError⟩ (cut_succeeds _ _)
    · rintro ⟨digits, c, rest, rfl, hDigits, hLong, hEnd⟩
      have hFollows : ∀ d ∈ (c :: rest).head?, d.isDigit = false := by
        rintro d hFirst
        cases hFirst
        exact isDigit_of_isHexDigit_eq_false hEnd
      have hSome : digits ≠ [] := List.length_pos_iff.mp (by omega)
      rw [Text.takeWhile_run hDigits hFollows, Text.dropWhile_run hDigits hFollows]
      simp [hSome, hEnd, Entity.referenceNumber_decimal hDigits hSome, hLong]

theorem reference_fails_iff {final : Bool} {s rest : List Char} :
    (∃ fault, reference final s rest = .error fault) ↔ Refused ('&' :: rest) := by
  rw [reference.eq_def]
  split
  · refine iff_of_false ok_succeeds ?_
    intro h
    cases h
  · rw [numericReference_fails_iff]
    constructor
    · exact .number
    · intro h
      cases h with
      | number hNumber => exact hNumber
  · rename_i c more hNumber
    have hNot : ¬ Refused ('&' :: c :: more) := by
      intro h
      cases h
      exact hNumber rfl
    refine iff_of_false ?_ hNot
    split
    · split
      · exact ok_succeeds
      · split
        · exact ok_succeeds
        · exact ok_succeeds
    · exact ok_succeeds

theorem markup_fails_iff {final : Bool} {s rest : List Char} :
    (∃ fault, markup final s rest = .error fault) ↔ Refused ('<' :: rest) := by
  rw [markup.eq_def]
  split
  · refine iff_of_false ok_succeeds ?_
    intro h
    cases h
  · refine iff_of_false ok_succeeds ?_
    intro h
    cases h with
    | tag hLetter _ => cases hLetter
  · refine iff_of_false ok_succeeds ?_
    intro h
    cases h with
    | tag hLetter _ => cases hLetter
  · rw [declaration_fails_iff]
    constructor
    · rintro ⟨body, rfl, hSection⟩
      exact .marked hSection
    · intro h
      cases h with
      | marked hSection => exact ⟨_, rfl, hSection⟩
      | tag hLetter _ => cases hLetter
  · rename_i c more hSlash hQuestion hExclamation
    by_cases hLetter : Tag.isLetter c = true
    · have hTag : Refused ('<' :: c :: more) ↔ Tag.Refused (c :: more) := by
        constructor
        · intro h
          cases h with
          | marked _ => exact (hExclamation rfl).elim
          | tag _ hTag => exact hTag
        · exact .tag hLetter
      rw [hTag, ← Tag.read_fails_iff, if_pos hLetter]
      cases hRead : Tag.read (c :: more) with
      | error fault => exact ⟨fun _ => ⟨fault, rfl⟩, fun _ => ⟨fault, rfl⟩⟩
      | ok reading =>
        refine iff_of_false ?_ ?_
        · cases reading <;> exact ok_succeeds
        · rintro ⟨fault, hError⟩
          cases hError
    · rw [if_neg hLetter]
      refine iff_of_false ok_succeeds ?_
      intro h
      cases h with
      | marked _ => exact (hExclamation rfl).elim
      | tag hOther _ => exact absurd hOther hLetter

/-- A step fails exactly at refused markup outside of raw content. -/
theorem step_fails_iff {final : Bool} {raw : Option (List Char)} {s : List Char} :
    (∃ fault, step final raw s = .error fault) ↔ raw = none ∧ Refused s := by
  cases raw with
  | some name =>
    refine iff_of_false ok_succeeds ?_
    rintro ⟨hNone, _⟩
    cases hNone
  | none =>
    rw [and_iff_right rfl, step.eq_def]
    simp only
    split
    · refine iff_of_false ok_succeeds ?_
      intro h
      cases h
    · exact markup_fails_iff
    · exact reference_fails_iff
    · rename_i hMarkup hReference
      refine iff_of_false ok_succeeds ?_
      intro h
      cases h with
      | marked _ => exact hMarkup _ rfl
      | number _ => exact hReference _ rfl
      | tag _ _ => exact hMarkup _ rfl

end Token

end PageCheck.Html
