import PageCheck.Proofs.Text.Run
import PageCheck.Selector.Reader

/-!
# Numbers in selectors that cannot be read

Two things in a selector are read as numbers: what stands behind a backslash, and the parts of a
formula for places. The readers of single tokens fail for no other reason, and they fail exactly if
one of the texts of the token holds a number that no character has, or one with too many digits.
-/

namespace PageCheck.Selector

set_option autoImplicit false

open Text (Code Codes)
open Text.Codes (lowerBasic)

/-- The computation comes to a number that cannot be read if `P` holds, and to a result if not. -/
structure FailsIf {α : Type} (x : Except Fault α) (P : Prop) : Prop where
  fails : P → ∃ fault, x = .error fault ∧ fault.sort = .number
  succeeds : ¬ P → ∃ a, x = .ok a

namespace FailsIf

variable {α β : Type} {P Q : Prop} {x : Except Fault α}

theorem ok (a : α) : FailsIf (.ok a) False := ⟨False.elim, fun _ => ⟨a, rfl⟩⟩

theorem error {fault : Fault} (h : fault.sort = .number) :
    FailsIf (.error fault : Except Fault α) True :=
  ⟨fun _ => ⟨fault, rfl, h⟩, fun hFalse => absurd trivial hFalse⟩

theorem congr (h : FailsIf x P) (hIff : P ↔ Q) : FailsIf x Q := propext hIff ▸ h

theorem not_of_ok {a : α} (h : FailsIf x P) (hOk : x = .ok a) : ¬ P := by
  intro hP
  obtain ⟨fault, hError, _⟩ := h.fails hP
  cases hOk.symm.trans hError

theorem sort_of_error {fault : Fault} (h : FailsIf x P) (hError : x = .error fault) :
    P ∧ fault.sort = .number := by
  by_cases hP : P
  · obtain ⟨other, hOther, hSort⟩ := h.fails hP
    cases hError.symm.trans hOther
    exact ⟨hP, hSort⟩
  · obtain ⟨a, hOk⟩ := h.succeeds hP
    cases hError.symm.trans hOk

theorem map (f : α → β) (h : FailsIf x P) : FailsIf (x.map f) P := by
  constructor
  · intro hP
    obtain ⟨fault, rfl, hSort⟩ := h.fails hP
    exact ⟨fault, rfl, hSort⟩
  · intro hP
    obtain ⟨a, rfl⟩ := h.succeeds hP
    exact ⟨f a, rfl⟩

theorem bind {f : α → Except Fault β} {Q : α → Prop} (h : FailsIf x P)
    (hNext : ∀ a, x = .ok a → FailsIf (f a) (Q a)) :
    FailsIf (x >>= f) (P ∨ ∃ a, x = .ok a ∧ Q a) := by
  cases hResult : x with
  | error fault =>
    obtain ⟨hP, hSort⟩ := h.sort_of_error hResult
    exact (error hSort).congr (iff_of_true trivial (Or.inl hP))
  | ok a =>
    refine (hNext a hResult).congr ?_
    rw [or_iff_right (h.not_of_ok hResult)]
    constructor
    · intro hQ
      exact ⟨a, rfl, hQ⟩
    · rintro ⟨b, hEq, hQ⟩
      cases hEq
      exact hQ

/-- Of two computations one after the other, of which the second one does not need the first. -/
theorem seq {f : α → Except Fault β} (h : FailsIf x P) (hNext : ∀ a, FailsIf (f a) Q) :
    FailsIf (x >>= f) (P ∨ Q) := by
  refine (h.bind fun a _ => hNext a).congr ?_
  by_cases hP : P
  · exact iff_of_true (Or.inl hP) (Or.inl hP)
  · obtain ⟨a, hOk⟩ := h.succeeds hP
    rw [or_iff_right hP, or_iff_right hP]
    exact ⟨fun ⟨_, _, hQ⟩ => hQ, fun hQ => ⟨a, hOk, hQ⟩⟩

theorem mapM {l : List α} {f : α → Except Fault β} {P : α → Prop}
    (h : ∀ a, FailsIf (f a) (P a)) : FailsIf (l.mapM f) (∃ a ∈ l, P a) := by
  induction l with
  | nil => exact (ok []).congr (by simp)
  | cons a rest ih =>
    rw [List.mapM_cons]
    refine ((h a).seq fun b => ih.seq fun bs => ok (b :: bs)).congr ?_
    simp

theorem option {o : Option α} {f : α → Except Fault β} {P : α → Prop}
    (h : ∀ a, FailsIf (f a) (P a)) : FailsIf (o.mapM f) (∃ a ∈ o, P a) := by
  cases o with
  | none => exact (ok none).congr (by simp)
  | some a => exact ((h a).map some).congr (by simp)

end FailsIf

/-- The digits of an escape. -/
structure IsNumber (digits : Codes) : Prop where
  ne_nil : digits ≠ []
  length_le : digits.length ≤ escapeWidth
  digits : ∀ c ∈ digits, c.is Text.isHexDigit = true

/-- Behind a backslash a number stands, with a space that ends it, and no character has it; or,
outside of strings, a number stands with a comment right behind it. -/
inductive IsBadNumber (inString : Bool) : Codes → Prop where
  | range {digits rest : Codes} (hNumber : IsNumber digits) (hSpace : (space? rest).isSome = true)
      (hRange : 0x10FFFF < number 16 digits) : IsBadNumber inString (digits ++ rest)
  | comment {digits rest : Codes} (hNumber : IsNumber digits) (hOutside : inString = false)
      (hComment : (behindComment? rest).isSome = true) :
      IsBadNumber inString (digits ++ Code.char '/' :: .char '*' :: rest)

/-- One of the escapes of a text has such a number. -/
inductive HasBadEscape (inString : Bool) : Codes → Prop where
  | here {s : Codes} (hNumber : IsBadNumber inString s) : HasBadEscape inString (.char '\\' :: s)
  | behind {s text after : Codes} (hEscape : escapeAt inString s = .ok (text, after))
      (hAfter : HasBadEscape inString after) : HasBadEscape inString (.char '\\' :: s)
  | plain {c : Code} {s : Codes} (hPlain : c ≠ '\\') (hRest : HasBadEscape inString s) :
      HasBadEscape inString (c :: s)

theorem isHexDigit_of_space? {s : Codes} (h : (space? s).isSome = true) :
    ∀ c ∈ s.head?, c.is Text.isHexDigit = false := by
  unfold space? at h
  split at h
  · rintro c hFirst
    cases hFirst
    decide
  · rename_i d rest _
    rintro c hFirst
    cases hFirst
    split at h
    · rename_i hSpace
      simp only [isSpaceChar, isBreak, Bool.or_eq_true, beq_iff_eq] at hSpace
      rcases hSpace with (rfl | rfl) | (rfl | rfl) | rfl
      all_goals decide
    · cases h
  · cases h

theorem hexRun_append {digits rest : Codes} (h : IsNumber digits)
    (hEnd : ∀ c ∈ rest.head?, c.is Text.isHexDigit = false) : hexRun (digits ++ rest) = digits := by
  rw [hexRun, digitRun, List.take_append, List.take_of_length_le h.length_le]
  apply Text.takeWhile_run h.digits
  intro c hFirst
  cases rest with
  | nil =>
    rw [List.take_nil] at hFirst
    cases hFirst
  | cons d more =>
    cases hWidth : escapeWidth - digits.length with
    | zero =>
      rw [hWidth, List.take_zero] at hFirst
      cases hFirst
    | succ n =>
      rw [hWidth, List.take_succ_cons] at hFirst
      exact hEnd c hFirst

theorem isNumber_hexRun {s : Codes} (h : (hexRun s).isEmpty = false) : IsNumber (hexRun s) where
  ne_nil := by simpa using h
  length_le := Nat.le_trans (List.takeWhile_sublist _).length_le (List.length_take_le _ _)
  digits c hMem := Text.holds_of_mem_takeWhile hMem

theorem hexRun_append_drop (s : Codes) : hexRun s ++ s.drop (hexRun s).length = s := by
  have hPrefix : hexRun s <+: s := (List.takeWhile_prefix _).trans (List.take_prefix _ _)
  exact List.prefix_iff_eq_append.mp hPrefix

theorem isBadNumber_iff {inString : Bool} {s : Codes} : IsBadNumber inString s ↔
    (hexRun s).isEmpty = false ∧
      ((space? (s.drop (hexRun s).length)).isSome = true ∧ 0x10FFFF < number 16 (hexRun s) ∨
        inString = false ∧ ∃ more, s.drop (hexRun s).length = Code.char '/' :: .char '*' :: more ∧
          (behindComment? more).isSome = true) := by
  constructor
  · intro h
    cases h with
    | range hNumber hSpace hRange =>
      rw [hexRun_append hNumber (isHexDigit_of_space? hSpace), List.drop_left]
      exact ⟨by simpa using hNumber.ne_nil, Or.inl ⟨hSpace, hRange⟩⟩
    | @comment digits rest hNumber hOutside hComment =>
      have hEnd : ∀ c ∈ (Code.char '/' :: .char '*' :: rest).head?, c.is Text.isHexDigit = false := by
        rintro c hFirst
        cases hFirst
        decide
      rw [hexRun_append hNumber hEnd, List.drop_left]
      exact ⟨by simpa using hNumber.ne_nil, Or.inr ⟨hOutside, rest, rfl, hComment⟩⟩
  · rintro ⟨hDigits, hRest⟩
    have hNumber := isNumber_hexRun hDigits
    rw [← hexRun_append_drop s]
    rcases hRest with ⟨hSpace, hRange⟩ | ⟨hOutside, more, hMore, hComment⟩
    · exact .range hNumber hSpace hRange
    · rw [hMore]
      exact .comment hNumber hOutside hComment

theorem escapedCode_failsIf (digits : Codes) :
    FailsIf (escapedCode digits) (0x10FFFF < number 16 digits) := by
  unfold escapedCode
  dsimp only
  split
  · rename_i hZero
    exact (FailsIf.ok _).congr (iff_of_false id (by omega))
  · rw [← Code.ofNat?_eq_none_iff]
    split
    · rename_i hSome
      rw [hSome]
      exact (FailsIf.ok _).congr (iff_of_false id nofun)
    · rename_i hNone
      exact (FailsIf.error rfl).congr (iff_of_true trivial hNone)

theorem numbered?_eq_some_iff {s digits after : Codes} : numbered? s = some (digits, after) ↔
    (hexRun s).isEmpty = false ∧ digits = hexRun s ∧
      space? (s.drop (hexRun s).length) = some after := by
  unfold numbered?
  cases hDigits : (hexRun s).isEmpty with
  | true => simp
  | false =>
    rw [if_neg Bool.false_ne_true, Option.map_eq_some_iff, and_iff_right rfl]
    constructor
    · rintro ⟨rest, hSpace, hPair⟩
      cases hPair
      exact ⟨rfl, hSpace⟩
    · rintro ⟨rfl, hSpace⟩
      exact ⟨after, hSpace, rfl⟩

theorem commented?_isSome_iff {s : Codes} : (commented? s).isSome = true ↔
    (hexRun s).isEmpty = false ∧ ∃ more, s.drop (hexRun s).length = Code.char '/' :: .char '*' :: more ∧
      (behindComment? more).isSome = true := by
  unfold commented?
  cases hDigits : (hexRun s).isEmpty with
  | true => simp
  | false =>
    simp only [Bool.false_eq_true, if_false, true_and]
    split
    · rename_i more hMore
      simp [hMore]
    · rename_i hOther
      simp only [Option.isSome_none, Bool.false_eq_true, false_iff, not_exists, not_and]
      intro more hMore
      exact absurd hMore (hOther more)

theorem escapeAt_failsIf (inString : Bool) (s : Codes) :
    FailsIf (escapeAt inString s) (IsBadNumber inString s) := by
  rw [propext isBadNumber_iff]
  unfold escapeAt
  split
  · rename_i digits after hNumbered
    obtain ⟨hDigits, rfl, hSpace⟩ := numbered?_eq_some_iff.mp hNumbered
    refine ((escapedCode_failsIf _).map _).congr ?_
    rw [hSpace]
    constructor
    · intro hRange
      exact ⟨hDigits, Or.inl ⟨rfl, hRange⟩⟩
    · rintro ⟨_, ⟨_, hRange⟩ | ⟨_, more, hMore, _⟩⟩
      · exact hRange
      · rw [hMore] at hSpace
        cases hSpace
  · rename_i hNone
    -- With no space behind it a number is not taken, and then only a comment can spoil it.
    have hSpace : (hexRun s).isEmpty = false →
        ¬ (space? (s.drop (hexRun s).length)).isSome = true := by
      intro hDigits hSome
      obtain ⟨after, hAfter⟩ := Option.isSome_iff_exists.mp hSome
      rw [numbered?_eq_some_iff.mpr ⟨hDigits, rfl, hAfter⟩] at hNone
      cases hNone
    cases inString with
    | true =>
      refine (FailsIf.ok _).congr (iff_of_false id ?_)
      rintro ⟨hDigits, ⟨hSome, _⟩ | ⟨hOutside, _⟩⟩
      · exact hSpace hDigits hSome
      · cases hOutside
    | false =>
      rw [if_neg Bool.false_ne_true]
      cases hComment : commented? s with
      | some text =>
        have hHere := commented?_isSome_iff.mp (Option.isSome_iff_exists.mpr ⟨text, hComment⟩)
        exact (FailsIf.error rfl).congr (iff_of_true trivial ⟨hHere.1, Or.inr ⟨rfl, hHere.2⟩⟩)
      | none =>
        refine (FailsIf.ok _).congr (iff_of_false id ?_)
        rintro ⟨hDigits, ⟨hSome, _⟩ | ⟨_, hMore⟩⟩
        · exact hSpace hDigits hSome
        · have hSome := commented?_isSome_iff.mpr ⟨hDigits, hMore⟩
          rw [hComment] at hSome
          cases hSome

theorem hasBadEscape_backslash_iff {inString : Bool} {s text after : Codes}
    (h : escapeAt inString s = .ok (text, after)) :
    HasBadEscape inString (.char '\\' :: s) ↔ HasBadEscape inString after := by
  constructor
  · intro hBad
    cases hBad with
    | here hNumber => exact absurd hNumber ((escapeAt_failsIf inString s).not_of_ok h)
    | behind hEscape hAfter =>
      cases h.symm.trans hEscape
      exact hAfter
    | plain hPlain _ => exact absurd rfl hPlain
  · exact .behind h

theorem hasBadEscape_cons_iff {inString : Bool} {c : Code} {s : Codes} (h : c ≠ '\\') :
    HasBadEscape inString (c :: s) ↔ HasBadEscape inString s := by
  constructor
  · intro hBad
    cases hBad with
    | here _ => exact absurd rfl h
    | behind _ _ => exact absurd rfl h
    | plain _ hRest => exact hRest
  · exact .plain h

theorem decode_failsIf (inString : Bool) (s : Codes) :
    FailsIf (decode inString s) (HasBadEscape inString s) := by
  fun_induction decode inString s with
  | case1 =>
    refine (FailsIf.ok []).congr (iff_of_false id ?_)
    intro hBad
    cases hBad
  | case2 rest fault hEscape =>
    obtain ⟨hNumber, hSort⟩ := (escapeAt_failsIf inString rest).sort_of_error hEscape
    exact (FailsIf.error hSort).congr (iff_of_true trivial (.here hNumber))
  | case3 rest text after hEscape ih =>
    exact (ih.map _).congr (hasBadEscape_backslash_iff hEscape).symm
  | case4 c rest hPlain ih =>
    exact (ih.map _).congr (hasBadEscape_cons_iff hPlain).symm

theorem nameText_failsIf (s : Codes) : FailsIf (nameText s) (HasBadEscape false s) :=
  decode_failsIf false s

theorem pseudoName_failsIf (s : Codes) : FailsIf (pseudoName s) (HasBadEscape false s) :=
  (decode_failsIf false s).map _

/-- A value whose text has such an escape; a value between quotes is a string. -/
def IsBadValue : Codes → Prop
  | '"' :: rest => HasBadEscape true rest.dropLast
  | '\'' :: rest => HasBadEscape true rest.dropLast
  | s => HasBadEscape false s

theorem isBadValue_of_unquoted {s : Codes} (hDouble : ∀ rest, s ≠ .char '"' :: rest)
    (hSingle : ∀ rest, s ≠ .char '\'' :: rest) : IsBadValue s ↔ HasBadEscape false s := by
  unfold IsBadValue
  split
  · exact absurd rfl (hDouble _)
  · exact absurd rfl (hSingle _)
  · exact Iff.rfl

theorem valueText_failsIf (s : Codes) : FailsIf (valueText s) (IsBadValue s) := by
  unfold valueText
  split
  · exact decode_failsIf true _
  · exact decode_failsIf true _
  · rename_i hDouble hSingle
    rw [propext (isBadValue_of_unquoted hDouble hSingle)]
    exact decode_failsIf false _

/-- The runs of digits in a formula that are read as numbers. -/
def formulaNumbers (s : Codes) : List Codes :=
  if s = "even" ∨ s = "odd" then []
  else
    let body := (takeSign s).2
    match body.dropWhile isDigit with
    | 'n' :: rest =>
      [body.takeWhile isDigit,
        (skipBlanks (takeSign (skipBlanks rest)).2).takeWhile isDigit]
    | _ => [body.takeWhile isDigit]

def HasLongNumber (formula : Codes) : Prop :=
  ∃ digits ∈ formulaNumbers formula, Text.digitLimit < digits.length

theorem digitsNumber_failsIf (digits : Codes) :
    FailsIf (digitsNumber digits) (Text.digitLimit < digits.length) := by
  unfold digitsNumber
  split
  · rename_i hLong
    exact (FailsIf.error rfl).congr (iff_of_true trivial hLong)
  · rename_i hShort
    exact (FailsIf.ok _).congr (iff_of_false id hShort)

theorem hasLongNumber_of_variable {s rest : Codes} (hWord : ¬ (s = "even" ∨ s = "odd"))
    (hRest : (takeSign s).2.dropWhile isDigit = .char 'n' :: rest) :
    HasLongNumber s ↔ Text.digitLimit < ((takeSign s).2.takeWhile isDigit).length ∨
      Text.digitLimit <
        ((skipBlanks (takeSign (skipBlanks rest)).2).takeWhile isDigit).length := by
  unfold HasLongNumber formulaNumbers
  rw [if_neg hWord]
  simp only [hRest, List.mem_cons, List.not_mem_nil, or_false, exists_eq_or_imp, exists_eq_left]

theorem hasLongNumber_of_constant {s : Codes} (hWord : ¬ (s = "even" ∨ s = "odd"))
    (hRest : ∀ rest, (takeSign s).2.dropWhile isDigit ≠ .char 'n' :: rest) :
    HasLongNumber s ↔ Text.digitLimit < ((takeSign s).2.takeWhile isDigit).length := by
  unfold HasLongNumber formulaNumbers
  rw [if_neg hWord]
  dsimp only
  split
  · rename_i rest hVariable
    exact absurd hVariable (hRest rest)
  · simp only [List.mem_singleton, exists_eq_left]

theorem readFormula_failsIf (s : Codes) : FailsIf (readFormula s) (HasLongNumber s) := by
  unfold readFormula
  by_cases hEven : s = "even"
  · rw [if_pos hEven]
    exact (FailsIf.ok _).congr (by simp [HasLongNumber, formulaNumbers, hEven])
  by_cases hOdd : s = "odd"
  · rw [if_neg hEven, if_pos hOdd]
    exact (FailsIf.ok _).congr (by simp [HasLongNumber, formulaNumbers, hOdd])
  rw [if_neg hEven, if_neg hOdd]
  have hWord := not_or.mpr ⟨hEven, hOdd⟩
  dsimp only
  split
  · rename_i rest hRest
    rw [propext (hasLongNumber_of_variable hWord hRest)]
    split
    · rename_i hNone
      have hShort : ¬ Text.digitLimit < ((takeSign s).2.takeWhile isDigit).length := by
        rw [List.isEmpty_iff.mp hNone]
        decide
      rw [or_iff_right hShort]
      exact ((digitsNumber_failsIf _).seq fun _ => FailsIf.ok _).congr (or_iff_left id)
    · refine ((digitsNumber_failsIf _).seq fun _ =>
        (digitsNumber_failsIf _).seq fun _ => FailsIf.ok _).congr ?_
      rw [or_iff_left id]
  · rename_i hOther
    rw [propext (hasLongNumber_of_constant hWord hOther)]
    exact ((digitsNumber_failsIf _).seq fun _ => FailsIf.ok _).congr (or_iff_left id)

/-- An attribute with a number that cannot be read in its name space, its name or its value. -/
def AttributeText.Overflows (text : AttributeText) : Prop :=
  (∃ t ∈ text.space, HasBadEscape false t) ∨ HasBadEscape false text.name ∨
    ∃ sign value, text.comparison = some (sign, value) ∧ IsBadValue value

theorem readAttribute_failsIf (text : AttributeText) :
    FailsIf (readAttribute text) text.Overflows := by
  obtain ⟨space, name, comparison, mark⟩ := text
  unfold readAttribute AttributeText.Overflows
  refine (FailsIf.option nameText_failsIf).seq fun _ => (nameText_failsIf name).seq fun key => ?_
  cases comparison with
  | none => cases mark <;> exact (FailsIf.ok _).congr (by simp)
  | some test =>
    obtain ⟨sign, value⟩ := test
    have hIff : IsBadValue value ∨ False ↔ ∃ s v, some (sign, value) = some (s, v) ∧ IsBadValue v := by
      rw [or_iff_left id]
      constructor
      · intro hBad
        exact ⟨sign, value, rfl, hBad⟩
      · rintro ⟨s, v, hEq, hBad⟩
        cases hEq
        exact hBad
    cases mark with
    | none => exact ((valueText_failsIf value).seq fun _ => FailsIf.ok _).congr hIff
    | some c => exact ((valueText_failsIf value).seq fun _ => FailsIf.ok _).congr hIff

namespace Token

/-- A token with a number in it that cannot be read. The values of a search for texts are decoded
as a whole first, and then one by one. -/
def Overflows : Token → Prop
  | .custom s => HasBadEscape false s
  | .pseudo s _ => HasBadEscape false s
  | .contains s values =>
    HasBadEscape false s ∨ HasBadEscape false values ∨
      ∃ decoded, decode false values = .ok decoded ∧ ∃ v ∈ valuesIn decoded, IsBadValue v
  | .language values => ∃ v ∈ valuesIn values, IsBadValue v
  | .place s formula _ _ => HasBadEscape false s ∨ HasLongNumber (lowerBasic formula)
  | .identifier s => HasBadEscape false s
  | .className s => HasBadEscape false s
  | .name space s => (∃ t ∈ space, HasBadEscape false t) ∨ HasBadEscape false s
  | .attribute text => text.Overflows
  | _ => False

def isName : Token → Bool
  | .name .. => true
  | _ => false

/-- Whether a token only adds conditions to the compound that is being read. -/
def isPlain : Token → Bool
  | .nesting | .identifier _ | .className _ | .name .. | .attribute _ | .contains .. | .language _ =>
    true
  | _ => false

end Token

theorem tokenConditions_failsIf (p : Progress) {t : Token} (h : t.isPlain = true) :
    FailsIf (tokenConditions p t) t.Overflows := by
  match t, h with
  | .nesting, _ => exact FailsIf.ok _
  | .identifier name, _ =>
    exact ((nameText_failsIf name).seq fun _ => FailsIf.ok _).congr (or_iff_left id)
  | .className name, _ =>
    exact ((nameText_failsIf name).seq fun _ => FailsIf.ok _).congr (or_iff_left id)
  | .name space name, _ =>
    refine ((FailsIf.option nameText_failsIf).seq fun _ =>
      (nameText_failsIf name).seq fun _ => FailsIf.ok _).congr ?_
    rw [or_iff_left (a := HasBadEscape false name) id, Token.Overflows]
  | .attribute text, _ =>
    exact ((readAttribute_failsIf text).seq fun _ => FailsIf.ok _).congr (or_iff_left id)
  | .contains name values, _ =>
    refine ((pseudoName_failsIf name).seq fun known =>
      (decode_failsIf false values).bind fun decoded _ =>
        (FailsIf.mapM (l := valuesIn decoded) valueText_failsIf).seq fun _ => FailsIf.ok _).congr ?_
    simp [Token.Overflows]
  | .language values, _ =>
    exact ((FailsIf.mapM valueText_failsIf).seq fun _ => FailsIf.ok _).congr (or_iff_left id)

end PageCheck.Selector
