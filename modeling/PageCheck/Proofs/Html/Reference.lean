import PageCheck.Html.Token.Tag
import PageCheck.Proofs.Text.Run

/-!
# Values that cannot be decoded

A value of an attribute is decoded from left to right, and no reference takes in an ampersand. So
every ampersand of the value is looked at, and decoding fails exactly if one of them is followed by
a number sign and more decimal digits than a number may have.
-/

namespace PageCheck.Html

set_option autoImplicit false

theorem ok_succeeds {α : Type} {a : α} : ¬ ∃ fault, (Except.ok a : Except Fault α) = .error fault := by
  rintro ⟨fault, hError⟩
  cases hError

theorem map_fails_iff {α β : Type} {f : α → β} {x : Except Fault α} :
    (∃ fault, x.map f = .error fault) ↔ ∃ fault, x = .error fault := by
  cases x with
  | error e => exact ⟨fun _ => ⟨e, rfl⟩, fun _ => ⟨e, rfl⟩⟩
  | ok a => exact iff_of_false ok_succeeds ok_succeeds

namespace Entity

open Text (isHexDigit notMem_takeWhile)

/-- A decimal reference with too many digits stands somewhere in the text. -/
def HasLongReference (s : List Char) : Prop :=
  ∃ before after, s = before ++ '&' :: '#' :: after ∧
    Text.digitLimit < (after.takeWhile Char.isDigit).length

theorem hasLongReference_cons {c : Char} {s : List Char} (h : c ≠ '&') :
    HasLongReference (c :: s) ↔ HasLongReference s := by
  constructor
  · rintro ⟨before, after, hText, hLong⟩
    cases before with
    | nil =>
      cases hText
      exact absurd rfl h
    | cons d more =>
      cases hText
      exact ⟨more, after, rfl, hLong⟩
  · rintro ⟨before, after, rfl, hLong⟩
    exact ⟨c :: before, after, rfl, hLong⟩

theorem hasLongReference_append {used rest : List Char} (h : '&' ∉ used) :
    HasLongReference (used ++ rest) ↔ HasLongReference rest := by
  induction used with
  | nil => exact Iff.rfl
  | cons c more ih =>
    have hFirst : c ≠ '&' := fun hEq => h (hEq ▸ List.mem_cons_self)
    rw [List.cons_append, hasLongReference_cons hFirst, ih fun hMem => h (List.mem_cons_of_mem _ hMem)]

theorem hasLongReference_ampersand {s : List Char} :
    HasLongReference ('&' :: s) ↔
      (∃ after, s = '#' :: after ∧ Text.digitLimit < (after.takeWhile Char.isDigit).length) ∨
        HasLongReference s := by
  constructor
  · rintro ⟨before, after, hText, hLong⟩
    cases before with
    | nil =>
      cases hText
      exact Or.inl ⟨after, rfl, hLong⟩
    | cons d more =>
      cases hText
      exact Or.inr ⟨more, after, rfl, hLong⟩
  · rintro (⟨after, rfl, hLong⟩ | ⟨before, after, rfl, hLong⟩)
    · exact ⟨[], after, rfl, hLong⟩
    · exact ⟨'&' :: before, after, rfl, hLong⟩

theorem exists_semicolon (s : List Char) : ∃ used, s = used ++ afterSemicolon s ∧ '&' ∉ used := by
  unfold afterSemicolon
  split
  · exact ⟨[';'], rfl, by decide⟩
  · exact ⟨[], rfl, by simp⟩

theorem referenceNumber_hexadecimal {c : Char} (h : c = 'x' ∨ c = 'X') (digits : List Char) :
    referenceNumber (c :: digits) = .ok (Text.numeral 16 digits) := by
  simp [referenceNumber, h]

theorem referenceNumber_decimal {digits : List Char} (h : ∀ d ∈ digits, d.isDigit = true)
    (hSome : digits ≠ []) :
    referenceNumber digits =
      if Text.digitLimit < digits.length then .error (.longReference digits.length)
      else .ok (Text.numeral 10 digits) := by
  obtain ⟨c, more, rfl⟩ := List.exists_cons_of_ne_nil hSome
  have hDigit := h c List.mem_cons_self
  have hMark : ¬ (c = 'x' || c = 'X') = true := by
    rw [Bool.or_eq_true, decide_eq_true_eq, decide_eq_true_eq]
    rintro (rfl | rfl)
    · cases hDigit
    · cases hDigit
  rw [referenceNumber, if_neg hMark]

theorem valueReference?_hexadecimal {c : Char} (h : c = 'x' ∨ c = 'X') (more : List Char) :
    valueReference? ('#' :: c :: more) =
      if (more.takeWhile isHexDigit).isEmpty then none
      else some (.ok (valueChars (Text.numeral 16 (more.takeWhile isHexDigit))),
        afterSemicolon (more.dropWhile isHexDigit)) := by
  have hMark : (c = 'x' || c = 'X') = true := by simpa using h
  simp only [valueReference?, hMark, if_true, List.singleton_append, referenceNumber_hexadecimal h]
  rfl

theorem valueReference?_decimal {body : List Char} (h : ∀ c ∈ body.head?, ¬ (c = 'x' ∨ c = 'X')) :
    valueReference? ('#' :: body) =
      if (body.takeWhile Char.isDigit).isEmpty then none
      else some ((referenceNumber (body.takeWhile Char.isDigit)).map valueChars,
        afterSemicolon (body.dropWhile Char.isDigit)) := by
  cases body with
  | nil => rfl
  | cons c more =>
    have hMark : (c = 'x' || c = 'X') = false := by simpa using h c rfl
    simp only [valueReference?, hMark, Bool.false_eq_true, if_false, List.nil_append]

theorem valueReference?_named {s : List Char} (h : s.head? ≠ some '#') :
    valueReference? s =
      if (valueNameOf s).isEmpty then none
      else some (.ok (valueName (valueNameOf s) ((s.drop (valueNameOf s).length).head? == some ';')),
        afterSemicolon (s.drop (valueNameOf s).length)) := by
  rw [valueReference?.eq_def]
  split
  · exact absurd rfl h
  · rfl

theorem number_cases (body : List Char) :
    (∃ c more, (c = 'x' ∨ c = 'X') ∧ body = c :: more) ∨
      ∀ c ∈ body.head?, ¬ (c = 'x' ∨ c = 'X') := by
  by_cases hMark : ∀ c ∈ body.head?, ¬ (c = 'x' ∨ c = 'X')
  · exact Or.inr hMark
  · cases body with
    | nil => exact absurd (fun c hMem => nomatch hMem) hMark
    | cons c more =>
      have hHead : c = 'x' ∨ c = 'X' := Decidable.byContradiction fun hNot =>
        hMark fun d hd => (Option.mem_some.mp hd) ▸ hNot
      exact Or.inl ⟨c, more, hHead, rfl⟩

theorem value_cases (s : List Char) :
    (∃ c more, (c = 'x' ∨ c = 'X') ∧ s = '#' :: c :: more) ∨
      (∃ body : List Char, (∀ c ∈ body.head?, ¬ (c = 'x' ∨ c = 'X')) ∧ s = '#' :: body) ∨
      s.head? ≠ some '#' := by
  by_cases hSign : s.head? = some '#'
  · obtain ⟨body, rfl⟩ := List.head?_eq_some_iff.mp hSign
    rcases number_cases body with ⟨c, more, hMark, rfl⟩ | hMark
    · exact Or.inl ⟨c, more, hMark, rfl⟩
    · exact Or.inr (Or.inl ⟨body, hMark, rfl⟩)
  · exact Or.inr (Or.inr hSign)

theorem valueReference?_takes {s rest : List Char} {r : Except Fault (List Char)}
    (h : valueReference? s = some (r, rest)) : ∃ used, s = used ++ rest ∧ '&' ∉ used := by
  rcases value_cases s with ⟨c, more, hMark, rfl⟩ | ⟨body, hMark, rfl⟩ | hName
  · rw [valueReference?_hexadecimal hMark] at h
    split at h
    · cases h
    · cases h
      obtain ⟨semicolon, hRest, hSemicolon⟩ := exists_semicolon (more.dropWhile isHexDigit)
      refine ⟨'#' :: c :: (more.takeWhile isHexDigit ++ semicolon), ?_, ?_⟩
      · simp only [List.cons_append, List.append_assoc, ← hRest, List.takeWhile_append_dropWhile]
      · have hDigits := notMem_takeWhile (c := '&') (p := isHexDigit) (by decide) more
        rcases hMark with rfl | rfl
        · simp [hDigits, hSemicolon]
        · simp [hDigits, hSemicolon]
  · rw [valueReference?_decimal hMark] at h
    split at h
    · cases h
    · cases h
      obtain ⟨semicolon, hRest, hSemicolon⟩ := exists_semicolon (body.dropWhile Char.isDigit)
      refine ⟨'#' :: (body.takeWhile Char.isDigit ++ semicolon), ?_, ?_⟩
      · simp only [List.cons_append, List.append_assoc, ← hRest, List.takeWhile_append_dropWhile]
      · have hDigits := notMem_takeWhile (c := '&') (p := Char.isDigit) (by decide) body
        simp [hDigits, hSemicolon]
  · rw [valueReference?_named hName] at h
    split at h
    · cases h
    · cases h
      obtain ⟨semicolon, hRest, hSemicolon⟩ := exists_semicolon (s.drop (valueNameOf s).length)
      have hPrefix : valueNameOf s <+: s :=
        (List.takeWhile_prefix _).trans (List.take_prefix nameLimit s)
      refine ⟨valueNameOf s ++ semicolon, ?_, ?_⟩
      · rw [List.append_assoc, ← hRest]
        exact (List.prefix_iff_eq_append.mp hPrefix).symm
      · have hName := notMem_takeWhile (c := '&') (p := isValueNameChar) (by decide) (s.take nameLimit)
        simp only [List.mem_append, not_or]
        exact ⟨hName, hSemicolon⟩

theorem valueReference?_fails_iff {s : List Char} :
    (∃ fault rest, valueReference? s = some (.error fault, rest)) ↔
      ∃ after, s = '#' :: after ∧ Text.digitLimit < (after.takeWhile Char.isDigit).length := by
  rcases value_cases s with ⟨c, more, hMark, rfl⟩ | ⟨body, hMark, rfl⟩ | hName
  · rw [valueReference?_hexadecimal hMark]
    constructor
    · rintro ⟨fault, rest, hError⟩
      split at hError
      · cases hError
      · cases hError
    · rintro ⟨after, hText, hLong⟩
      cases hText
      rcases hMark with rfl | rfl
      · cases hLong
      · cases hLong
  · have hDigits : ∀ d ∈ body.takeWhile Char.isDigit, d.isDigit = true :=
      fun _ => Text.holds_of_mem_takeWhile
    rw [valueReference?_decimal hMark]
    constructor
    · rintro ⟨fault, rest, hError⟩
      split at hError
      · cases hError
      · rename_i hSome
        rw [referenceNumber_decimal hDigits (by simpa using hSome)] at hError
        by_cases hLong : Text.digitLimit < (body.takeWhile Char.isDigit).length
        · exact ⟨body, rfl, hLong⟩
        · rw [if_neg hLong] at hError
          cases hError
    · rintro ⟨after, hText, hLong⟩
      cases hText
      have hSome : body.takeWhile Char.isDigit ≠ [] := List.length_pos_iff.mp (by omega)
      rw [if_neg (by simpa using hSome), referenceNumber_decimal hDigits hSome, if_pos hLong]
      exact ⟨_, _, rfl⟩
  · rw [valueReference?_named hName]
    constructor
    · rintro ⟨fault, rest, hError⟩
      split at hError
      · cases hError
      · cases hError
    · rintro ⟨after, rfl, hLong⟩
      exact absurd rfl hName

theorem decodeValue_fails_iff (s : List Char) :
    (∃ fault, decodeValue s = .error fault) ↔ HasLongReference s := by
  fun_induction decodeValue s with
  | case1 =>
    constructor
    · rintro ⟨fault, hError⟩
      cases hError
    · rintro ⟨before, after, hText, _⟩
      cases before <;> cases hText
  | case2 rest r after hSome hShort ih =>
    -- The reference takes in no ampersand, so no other one begins inside of it.
    obtain ⟨used, hUsed, hAmpersand⟩ := valueReference?_takes hSome
    have hRest : HasLongReference rest ↔ ∃ fault, decodeValue after = .error fault := by
      rw [hUsed, hasLongReference_append hAmpersand, ih]
    rw [hasLongReference_ampersand, ← valueReference?_fails_iff, hSome, hRest]
    cases r with
    | error e => exact ⟨fun _ => Or.inl ⟨e, after, rfl⟩, fun _ => ⟨e, rfl⟩⟩
    | ok chars =>
      have hOk : ¬ ∃ (fault : Fault) (rest' : List Char),
          some ((Except.ok chars : Except Fault (List Char)), after) = some (.error fault, rest') := by
        rintro ⟨fault, rest', hEq⟩
        cases hEq
      rw [or_iff_right hOk]
      exact map_fails_iff (f := (chars ++ ·)) (x := decodeValue after)
  | case3 rest hNone ih =>
    rw [map_fails_iff, ih, hasLongReference_ampersand, ← valueReference?_fails_iff, hNone]
    simp
  | case4 c rest hAmpersand ih =>
    rw [map_fails_iff, ih, hasLongReference_cons hAmpersand]

end Entity

end PageCheck.Html
