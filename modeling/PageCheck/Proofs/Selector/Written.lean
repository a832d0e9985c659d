import PageCheck.Proofs.Selector.Run
import PageCheck.Proofs.Selector.Suffix

/-!
# Numbers in the text of a selector

The texts of a token stand in the selector as they are. So a number that cannot be read shows in the
selector itself: there is a backslash in it, or a long run of digits.
-/

namespace PageCheck.Selector

set_option autoImplicit false

open Text (Code Codes)
open Text.Codes (lowerBasic)

/-- The texts that a token keeps of the selector. -/
def Token.texts : Token → List Codes
  | .custom s | .pseudo s _ | .identifier s | .className s => [s]
  | .contains s values => [s, values]
  | .language values => [values]
  | .place s formula _ _ => [s, formula]
  | .name space s => space.toList ++ [s]
  | .attribute text => text.space.toList ++ text.name :: (text.comparison.map (·.2)).toList
  | _ => []

/-- A token is taken from the front of a text, which its texts stand in. -/
structure IsTaken (s : Codes) (found : Token × Codes) : Prop where
  suffix : found.2 <:+ s
  parts : ∀ t ∈ found.1.texts, t <:+: s

theorem IsTaken.of_suffix {s t : Codes} {found : Token × Codes} (h : IsTaken t found)
    (hText : t <:+ s) : IsTaken s found :=
  ⟨h.suffix.trans hText, fun u hMem => (h.parts u hMem).trans hText.isInfix⟩

theorem isTaken_of_attribute? {s rest : Codes} {text : AttributeText}
    (h : attribute? s = some (text, rest)) : IsTaken s (.attribute text, rest) := by
  obtain ⟨⟨space, name, after⟩, hName, h⟩ := Option.bind_eq_some_iff.mp h
  obtain ⟨hAfter, hPart, hSpace⟩ := isInfix_of_qualified? name?_leavesEnd hName
  have hText := skipBlanks_suffix s
  refine IsTaken.of_suffix ?_ hText
  dsimp only at h
  split at h
  · rename_i sign behind hSign
    obtain ⟨last, hValue, h⟩ := Option.bind_eq_some_iff.mp h
    have hStart : skipBlanks behind <:+ skipBlanks s := (skipBlanks_suffix behind).trans
      ((comparison?_suffix hSign).trans ((skipBlanks_suffix after).trans hAfter))
    have hLast := (value?_leavesEnd _ _ hValue).trans hStart
    have hParts : ∀ t ∈ space.toList ++ [name, taken (skipBlanks behind) last],
        t <:+: skipBlanks s := by
      intro t hMem
      rcases List.mem_append.mp hMem with hMem | hMem
      · exact hSpace t (Option.mem_toList.mp hMem)
      · rcases List.mem_pair.mp hMem with rfl | rfl
        · exact hPart
        · exact isInfix_taken hStart
    split at h
    · rename_i mark more hMark
      cases h
      exact ⟨(marked?_suffix hMark).trans hLast, hParts⟩
    · obtain ⟨more, hBracket, hEq⟩ := Option.map_eq_some_iff.mp h
      cases hEq
      exact ⟨(bracket?_leavesEnd _ _ hBracket).trans hLast, hParts⟩
  · obtain ⟨last, hBracket, hEq⟩ := Option.map_eq_some_iff.mp h
    cases hEq
    refine ⟨(bracket?_leavesEnd _ _ hBracket).trans hAfter, ?_⟩
    intro t hMem
    rcases List.mem_append.mp hMem with hMem | hMem
    · exact hSpace t (Option.mem_toList.mp hMem)
    · rcases List.mem_singleton.mp hMem with rfl
      exact hPart

/-- A reader that may fail takes its token from a text. -/
def Takes (s : Codes) (x : Except Fault (Option (Token × Codes))) : Prop :=
  ∀ found, x = .ok (some found) → IsTaken s found

theorem isTaken_of_closing {s rest : Codes} {t : Token} {found : Token × Codes} (hRest : rest <:+ s)
    (hTexts : ∀ u ∈ t.texts, u <:+: s)
    (h : (close? rest).map (fun after => (t, after)) = some found) : IsTaken s found := by
  obtain ⟨after, hClose, rfl⟩ := Option.map_eq_some_iff.mp h
  exact ⟨(close?_leavesEnd _ _ hClose).trans hRest, hTexts⟩

theorem isTaken_of_bind {reader : Codes → Option Codes} {s body : Codes} {t : Codes → Token}
    {found : Token × Codes} (hReader : LeavesEnd reader) (hBody : body <:+ s)
    (hTexts : ∀ rest, ∀ u ∈ (t rest).texts, u <:+: s)
    (h : (reader body).bind (fun rest => (close? rest).map fun after => (t rest, after)) =
      some found) : IsTaken s found := by
  obtain ⟨rest, hRest, hClosing⟩ := Option.bind_eq_some_iff.mp h
  exact isTaken_of_closing ((hReader _ _ hRest).trans hBody) (hTexts rest) hClosing

theorem takes_special? {s name body : Codes} (hName : name <:+: s) (hBody : body <:+ s) :
    Takes s (special? name body) := by
  intro found h
  have hNone {t : Token} (hTexts : t.texts = []) : ∀ u ∈ t.texts, u <:+: s := by
    rw [hTexts]
    exact List.forall_mem_nil _
  have hTwo {t : Token} {rest : Codes} (hTexts : t.texts = [name, taken body rest]) :
      ∀ u ∈ t.texts, u <:+: s := by
    intro u hMem
    rw [hTexts] at hMem
    rcases List.mem_pair.mp hMem with rfl | rfl
    · exact hName
    · exact isInfix_taken hBody
  unfold special? at h
  cases hKnown : pseudoName name with
  | error e =>
    rw [hKnown] at h
    cases h
  | ok known =>
    rw [hKnown] at h
    dsimp only [bind, Except.bind] at h
    split at h
    · exact isTaken_of_bind values?_leavesEnd hBody (fun _ => hTwo rfl) (Except.ok.inj h)
    · split at h
      · obtain ⟨rest, hPlace, hClosing⟩ := Option.bind_eq_some_iff.mp (Except.ok.inj h)
        have hRest := (placeText?_leavesEnd _ _ hPlace).trans hBody
        split at hClosing
        · rename_i after hClose
          cases hClosing
          exact ⟨(close?_leavesEnd _ _ hClose).trans hRest, hTwo rfl⟩
        · obtain ⟨after, hRestriction, rfl⟩ := Option.map_eq_some_iff.mp hClosing
          exact ⟨(restriction?_leavesEnd _ _ hRestriction).trans hRest, hTwo rfl⟩
      · split at h
        · exact isTaken_of_bind placeText?_leavesEnd hBody (fun _ => hTwo rfl) (Except.ok.inj h)
        · split at h
          · refine isTaken_of_bind values?_leavesEnd hBody (fun rest u hMem => ?_) (Except.ok.inj h)
            cases List.mem_singleton.mp hMem
            exact isInfix_taken hBody
          · split at h
            · have hFound := Except.ok.inj h
              split at hFound
              · rename_i rest hWord
                exact isTaken_of_closing ((word?_leavesEnd _ _ _ hWord).trans hBody) (hNone rfl) hFound
              · exact isTaken_of_bind (word?_leavesEnd _) hBody (fun _ => hNone rfl) hFound
            · cases h

theorem isTaken_classToken {rest after : Codes} (h : after <:+ rest) :
    IsTaken rest (classToken rest after) := by
  have hName : ∀ u ∈ [taken rest after], u <:+: rest := by
    intro u hMem
    cases List.mem_singleton.mp hMem
    exact isInfix_taken List.suffix_rfl
  unfold classToken
  split
  · exact ⟨h, hName⟩
  · exact ⟨(skipBlanks_suffix _).trans ((List.suffix_cons _ _).trans h), hName⟩
  · exact ⟨h, hName⟩

theorem isTaken_of_elementToken? {rest : Codes} {found : Token × Codes}
    (h : elementToken? rest = some found) : IsTaken rest found := by
  unfold elementToken? at h
  split at h
  · obtain ⟨after, hName, rfl⟩ := Option.map_eq_some_iff.mp h
    have hAfter := (name?_leavesEnd _ _ hName).trans (List.suffix_cons (Code.char ':') _)
    split
    · exact ⟨(skipBlanks_suffix _).trans ((List.suffix_cons _ _).trans hAfter), List.forall_mem_nil _⟩
    · exact ⟨hAfter, List.forall_mem_nil _⟩
  · cases h

theorem takes_colon? (rest : Codes) : Takes rest (colon? rest) := by
  intro found h
  unfold colon? at h
  split at h
  · exact isTaken_of_elementToken? (Except.ok.inj h)
  · rename_i after hName
    have hAfter := name?_leavesEnd _ _ hName
    split at h
    · rename_i inner
      have hInner : skipBlanks inner <:+ rest :=
        (skipBlanks_suffix inner).trans ((List.suffix_cons _ _).trans hAfter)
      split at h
      · cases h
      · rename_i other hSpecial
        cases h
        exact takes_special? (isInfix_taken List.suffix_rfl) hInner _ hSpecial
      · cases h
        exact isTaken_classToken hAfter
    · cases h
      exact isTaken_classToken hAfter

/-- What stands behind a sign is one name. -/
theorem isTaken_of_name? {c : Code} {rest : Codes} {make : Codes → Token} {found : Token × Codes}
    (hTexts : ∀ s, (make s).texts = [s])
    (h : ((name? rest).map fun after => (make (taken rest after), after)) = some found) :
    IsTaken (c :: rest) found := by
  obtain ⟨after, hName, rfl⟩ := Option.map_eq_some_iff.mp h
  refine IsTaken.of_suffix ⟨name?_leavesEnd _ _ hName, ?_⟩ (List.suffix_cons c rest)
  intro u hMem
  rw [hTexts] at hMem
  cases List.mem_singleton.mp hMem
  exact isInfix_taken List.suffix_rfl

theorem takes_token? (s : Codes) : Takes s (token? s) := by
  intro found h
  unfold token? at h
  split at h
  · rename_i rest hClose
    cases h
    exact ⟨close?_leavesEnd _ _ hClose, List.forall_mem_nil _⟩
  · dsimp only at h
    split at h
    · exact (takes_colon? _ found h).of_suffix (List.suffix_cons _ _)
    · cases h
      exact ⟨List.suffix_cons _ _, List.forall_mem_nil _⟩
    · have hFound := Except.ok.inj h
      split at hFound
      · obtain ⟨after, hName, rfl⟩ := Option.map_eq_some_iff.mp hFound
        exact ⟨(name?_leavesEnd _ _ hName).trans (List.suffix_append [_, _] _), List.forall_mem_nil _⟩
      · cases hFound
    · exact isTaken_of_name? (fun _ => rfl) (Except.ok.inj h)
    · exact isTaken_of_name? (fun _ => rfl) (Except.ok.inj h)
    · obtain ⟨⟨text, after⟩, hAttribute, rfl⟩ := Option.map_eq_some_iff.mp (Except.ok.inj h)
      exact (isTaken_of_attribute? hAttribute).of_suffix (List.suffix_cons _ _)
    · have hFound := Except.ok.inj h
      split at hFound
      · rename_i space name rest hName
        cases hFound
        obtain ⟨hRest, hPart, hSpace⟩ := isInfix_of_qualified? nameOrStar?_leavesEnd hName
        refine ⟨hRest, ?_⟩
        intro u hMem
        rcases List.mem_append.mp hMem with hMem | hMem
        · exact hSpace u (Option.mem_toList.mp hMem)
        · cases List.mem_singleton.mp hMem
          exact hPart
      · obtain ⟨⟨c, rest⟩, hCombinator, rfl⟩ := Option.map_eq_some_iff.mp hFound
        exact ⟨combinator?_suffix hCombinator, List.forall_mem_nil _⟩

/-- A text in which a number can stand that cannot be read: one with a backslash or with a run of
more digits than a number may have. -/
def MayOverflow (s : Codes) : Prop :=
  Code.char '\\' ∈ s ∨ ∃ run, run <:+: s ∧ Text.digitLimit < run.length ∧ ∀ c ∈ run, isDigit c = true

theorem MayOverflow.mono {s t : Codes} (h : MayOverflow t) (hText : t <:+: s) : MayOverflow s := by
  rcases h with hBackslash | ⟨run, hRun, hLong⟩
  · exact Or.inl (hText.subset hBackslash)
  · exact Or.inr ⟨run, hRun.trans hText, hLong⟩

/-- Changing characters does not bring in a backslash or a digit. -/
theorem MayOverflow.of_map {f : Char → Char} {s : Codes} (hBackslash : ∀ c, f c = '\\' → c = '\\')
    (hDigit : ∀ c, (f c).isDigit = true → c.isDigit = true) (h : MayOverflow (s.map (Code.map f))) :
    MayOverflow s := by
  rcases h with hMem | ⟨run, hRun, hLong, hDigits⟩
  · obtain ⟨c, hMem, hCode⟩ := List.mem_map.mp hMem
    cases c with
    | char c =>
      cases hBackslash c (Code.char.inj hCode)
      exact Or.inl hMem
    | half index => cases hCode
  · obtain ⟨t, hText, rfl⟩ := List.infix_map_iff.mp hRun
    refine Or.inr ⟨t, hText, by simpa using hLong, ?_⟩
    intro c hMem
    have hMapped := hDigits (c.map f) (List.mem_map_of_mem hMem)
    cases c with
    | char c => exact hDigit c hMapped
    | half index => cases hMapped

theorem backslash_mem_of_hasBadEscape {inString : Bool} {s : Codes} (h : HasBadEscape inString s) :
    Code.char '\\' ∈ s := by
  induction h with
  | here _ => exact List.mem_cons_self
  | behind _ _ _ => exact List.mem_cons_self
  | plain _ _ ih => exact List.mem_cons_of_mem _ ih

theorem backslash_mem_of_isBadValue {s : Codes} (h : IsBadValue s) : Code.char '\\' ∈ s := by
  unfold IsBadValue at h
  split at h
  · exact List.mem_cons_of_mem _ (List.dropLast_subset _ (backslash_mem_of_hasBadEscape h))
  · exact List.mem_cons_of_mem _ (List.dropLast_subset _ (backslash_mem_of_hasBadEscape h))
  · exact backslash_mem_of_hasBadEscape h

theorem decode_of_backslash_notMem {inString : Bool} {s : Codes} (h : Code.char '\\' ∉ s) :
    decode inString s = .ok s := by
  induction s with
  | nil => rw [decode]
  | cons c rest ih =>
    have hFirst : c ≠ .char '\\' := fun hEq => h (hEq ▸ List.mem_cons_self)
    rw [decode, ih fun hMem => h (List.mem_cons_of_mem _ hMem)]
    · rfl
    · exact hFirst

theorem exists_of_mem_formulaNumbers {s digits : Codes} (h : digits ∈ formulaNumbers s) :
    ∃ t, t <:+ s ∧ digits = t.takeWhile isDigit := by
  unfold formulaNumbers at h
  split at h
  · cases h
  · dsimp only at h
    split at h
    · rename_i rest hRest
      rcases List.mem_pair.mp h with rfl | rfl
      · exact ⟨_, takeSign_suffix s, rfl⟩
      · refine ⟨_, ?_, rfl⟩
        have hBehind : rest <:+ s := (List.suffix_cons _ rest).trans
          (hRest ▸ (List.dropWhile_suffix _).trans (takeSign_suffix s))
        exact (skipBlanks_suffix _).trans
          ((takeSign_suffix _).trans ((skipBlanks_suffix rest).trans hBehind))
    · cases List.mem_singleton.mp h
      exact ⟨_, takeSign_suffix s, rfl⟩

theorem mayOverflow_of_hasLongNumber {s : Codes} (h : HasLongNumber s) : MayOverflow s := by
  obtain ⟨digits, hMem, hLong⟩ := h
  obtain ⟨t, hText, rfl⟩ := exists_of_mem_formulaNumbers hMem
  have hInfix : t.takeWhile isDigit <:+: s :=
    (List.takeWhile_prefix _).isInfix.trans hText.isInfix
  exact Or.inr ⟨_, hInfix, hLong, fun c => Text.holds_of_mem_takeWhile⟩

theorem toLower_eq_or_letter (c : Char) :
    c.toLower = c ∨ 97 ≤ c.toLower.toNat ∧ c.toLower.toNat ≤ 122 := by
  unfold Char.toLower
  split
  · rename_i hUpper
    refine Or.inr ?_
    simp [UInt32.le_iff_toNat_le, ← Char.toNat_val] at hUpper ⊢
    omega
  · exact Or.inl rfl

theorem toNat_le_of_isDigit {c : Char} (h : c.isDigit = true) : c.toNat ≤ 57 := by
  simp [Char.isDigit, UInt32.le_iff_toNat_le] at h
  exact h.2

theorem mayOverflow_of_lowerBasic {s : Codes} (h : MayOverflow (lowerBasic s)) :
    MayOverflow s := by
  -- Lowering a character either keeps it or gives a small letter.
  apply h.of_map
  · intro c hChar
    rcases toLower_eq_or_letter c with hSame | hLetter
    · exact hSame.symm.trans hChar
    · rw [hChar] at hLetter
      exact absurd hLetter.1 (by decide)
  · intro c hDigit
    rcases toLower_eq_or_letter c with hSame | hLetter
    · rwa [hSame] at hDigit
    · have := toNat_le_of_isDigit hDigit
      omega

theorem Token.Overflows.mayOverflow {t : Token} (h : t.Overflows) :
    ∃ s ∈ t.texts, MayOverflow s := by
  have hEscape {s : Codes} (hBad : HasBadEscape false s) : MayOverflow s :=
    Or.inl (backslash_mem_of_hasBadEscape hBad)
  have hValues {s : Codes} (hBad : ∃ v ∈ valuesIn s, IsBadValue v) : MayOverflow s := by
    obtain ⟨v, hMem, hValue⟩ := hBad
    exact Or.inl ((isInfix_of_mem_valuesIn hMem).subset (backslash_mem_of_isBadValue hValue))
  match t, h with
  | .custom s, h => exact ⟨s, List.mem_singleton_self s, hEscape h⟩
  | .pseudo s _, h => exact ⟨s, List.mem_singleton_self s, hEscape h⟩
  | .identifier s, h => exact ⟨s, List.mem_singleton_self s, hEscape h⟩
  | .className s, h => exact ⟨s, List.mem_singleton_self s, hEscape h⟩
  | .language values, h => exact ⟨values, List.mem_singleton_self values, hValues h⟩
  | .place s formula _ _, h =>
    rcases h with hName | hFormula
    · exact ⟨s, by simp [texts], hEscape hName⟩
    · exact ⟨formula, by simp [texts],
        mayOverflow_of_lowerBasic (mayOverflow_of_hasLongNumber hFormula)⟩
  | .name space s, h =>
    rcases h with ⟨t, hSpace, hBad⟩ | hBad
    · exact ⟨t, by simp [texts, Option.mem_def.mp hSpace], hEscape hBad⟩
    · exact ⟨s, by simp [texts], hEscape hBad⟩
  | .attribute text, h =>
    rcases h with ⟨t, hSpace, hBad⟩ | hName | ⟨sign, value, hComparison, hValue⟩
    · exact ⟨t, by simp [texts, Option.mem_def.mp hSpace], hEscape hBad⟩
    · exact ⟨text.name, by simp [texts], hEscape hName⟩
    · exact ⟨value, by simp [texts, hComparison], Or.inl (backslash_mem_of_isBadValue hValue)⟩
  | .contains s values, h =>
    rcases h with hName | hBad | ⟨decoded, hDecoded, hBad⟩
    · exact ⟨s, by simp [texts], hEscape hName⟩
    · exact ⟨values, by simp [texts], hEscape hBad⟩
    · refine ⟨values, by simp [texts], ?_⟩
      -- Without a backslash decoding changes nothing, so the values stand there as they are.
      by_cases hBackslash : Code.char '\\' ∈ values
      · exact Or.inl hBackslash
      · cases (decode_of_backslash_notMem hBackslash).symm.trans hDecoded
        exact hValues hBad

theorem sort_of_strayFault {c : Code} {offset : Nat} : (strayFault c offset).sort ≠ .number := by
  unfold strayFault
  repeat' split
  all_goals exact nofun

theorem hasBadEscape_of_special?_error {name body : Codes} {fault : Fault}
    (h : special? name body = .error fault) : HasBadEscape false name := by
  unfold special? at h
  cases hKnown : pseudoName name with
  | error e => exact ((pseudoName_failsIf name).sort_of_error hKnown).1
  | ok known =>
    rw [hKnown] at h
    dsimp only [bind, Except.bind] at h
    repeat' split at h
    all_goals cases h

theorem mayOverflow_of_colon?_error {rest : Codes} {fault : Fault} (h : colon? rest = .error fault) :
    MayOverflow rest := by
  unfold colon? at h
  split at h
  · cases h
  · split at h
    · split at h
      · rename_i hSpecial
        have hBackslash := backslash_mem_of_hasBadEscape (hasBadEscape_of_special?_error hSpecial)
        exact Or.inl ((isInfix_taken List.suffix_rfl).subset hBackslash)
      · cases h
      · cases h
    · cases h

theorem mayOverflow_of_token?_error {s : Codes} {fault : Fault} (h : token? s = .error fault) :
    MayOverflow s := by
  unfold token? at h
  split at h
  · cases h
  · dsimp only at h
    split at h
    · exact (mayOverflow_of_colon?_error h).mono (List.suffix_cons _ _).isInfix
    all_goals cases h

/-- The texts of all tokens stand in the source, and tokens that are cut off at a number are cut off
at a backslash. -/
theorem tokensFrom_written (stop offset : Nat) (s : Codes) :
    (∀ t ∈ (tokensFrom stop offset s).list, ∀ u ∈ t.token.texts, u <:+: s) ∧
      ∀ fault ∈ (tokensFrom stop offset s).fault, fault.sort = .number → MayOverflow s := by
  fun_induction tokensFrom stop offset s with
  | case1 => exact ⟨List.forall_mem_nil _, nofun⟩
  | case2 => exact ⟨List.forall_mem_nil _, nofun⟩
  | case3 offset c tail hStop fault hToken =>
    rw [hToken]
    refine ⟨List.forall_mem_nil _, ?_⟩
    rintro other _ _
    exact mayOverflow_of_token?_error hToken
  | case4 offset c tail hStop hToken =>
    rw [hToken]
    refine ⟨List.forall_mem_nil _, ?_⟩
    rintro other hFault hSort
    cases hFault
    exact absurd hSort sort_of_strayFault
  | case5 offset c tail hStop token rest hShorter hToken next ih =>
    obtain ⟨hSuffix, hParts⟩ := takes_token? _ _ hToken
    rw [hToken]
    dsimp only
    rw [dif_pos hShorter]
    constructor
    · intro t hMem u hText
      rcases List.mem_cons.mp hMem with rfl | hMore
      · exact hParts u hText
      · exact (ih.1 t hMore u hText).trans hSuffix.isInfix
    · intro fault hFault hSort
      exact (ih.2 fault hFault hSort).mono hSuffix.isInfix
  | case6 offset c tail hStop token rest hLonger hToken =>
    rw [hToken]
    dsimp only
    rw [dif_neg hLonger]
    refine ⟨List.forall_mem_nil _, ?_⟩
    rintro other hFault hSort
    cases hFault
    exact absurd hSort sort_of_strayFault

theorem suffix_of_next? {r next : Reading} (h : r.next? = some next) : next.tokens <:+ r.tokens := by
  obtain ⟨kind, p, index, frames, tokens⟩ := r
  unfold Reading.next? at h
  split at h
  · cases h
  · rename_i hReading
    cases hReading
    split at h
    · cases h
      exact List.suffix_cons _ _
    · cases h
      exact List.suffix_cons _ _
    · cases h
      exact List.suffix_cons _ _
    · cases h

theorem suffix_of_reaches {start last : Reading}
    (h : StateTransition.Reaches Reading.next? start last) : last.tokens <:+ start.tokens := by
  induction h with
  | refl => exact List.suffix_rfl
  | tail _ hNext ih => exact (suffix_of_next? hNext).trans ih

theorem replaceNull_eq_of_ne {c d : Char} (hNull : d ≠ '\uFFFD') (h : replaceNull c = d) : c = d := by
  unfold replaceNull at h
  split at h
  · exact absurd h.symm hNull
  · exact h

theorem sourceCodes_eq (selector : String) :
    sourceCodes selector = (Codes.ofString selector).map (Code.map replaceNull) := by
  simp only [sourceCodes, sourceChars, Codes.ofString, Codes.ofChars, List.map_map]
  rfl

theorem mayOverflow_of_sourceCodes {selector : String} (h : MayOverflow (sourceCodes selector)) :
    MayOverflow selector := by
  rw [sourceCodes_eq] at h
  apply h.of_map
  · intro c hChar
    exact replaceNull_eq_of_ne (by decide) hChar
  · intro c hDigit
    have hNull : replaceNull c ≠ '\uFFFD' := by
      intro hEq
      rw [hEq] at hDigit
      revert hDigit
      decide
    rwa [← replaceNull_eq_of_ne hNull rfl] at hDigit

/-- A selector in which the reader comes to a number that cannot be read has a backslash in it, or
a run of more digits than a number may have. -/
theorem HasBadNumber.mayOverflow {selector : String} (h : HasBadNumber selector) :
    MayOverflow selector := by
  apply mayOverflow_of_sourceCodes
  obtain ⟨last, hRun, hOverflows⟩ := h
  have hWritten := tokensFrom_written (trimmedLength (sourceCodes selector))
    ((sourceCodes selector).length - (skipBlanks (sourceCodes selector)).length)
    (skipBlanks (sourceCodes selector))
  have hTokens := suffix_of_reaches hRun
  have hBody := (skipBlanks_suffix (sourceCodes selector)).isInfix
  unfold Reading.Overflows at hOverflows
  split at hOverflows
  · obtain ⟨fault, hFault, hSort⟩ := hOverflows
    exact (hWritten.2 fault hFault hSort).mono hBody
  · rename_i t rest hHere
    obtain ⟨s, hMem, hMay⟩ := hOverflows.1.mayOverflow
    have hListed := hTokens.subset (hHere ▸ List.mem_cons_self)
    exact hMay.mono ((hWritten.1 t hListed s hMem).trans hBody)

end PageCheck.Selector
