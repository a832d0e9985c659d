import PageCheck.Json.Reader
import PageCheck.Json.Writer
import PageCheck.Proofs.Text.Utf8

/-!
# Strings in JSON

Every character of a written string is read as its own code unit, and no two of them are surrogates
that belong together, so the string is read as the text it was written for.
-/

namespace PageCheck.Json

set_option autoImplicit false

variable {opening s rest : List Char}

/-- Put a code unit before those that are read. -/
def withUnit (unit : Nat) (found : Except Stop (List Nat × List Char)) :
    Except Stop (List Nat × List Char) := found.map fun (units, rest) => (unit :: units, rest)

theorem readUnits_short {c e : Char} (hMark : c ≠ 'u') (hShort : shortEscape? c = some e) :
    readUnits opening ('\\' :: c :: s) = withUnit e.toNat (readUnits opening s) := by
  rw [readUnits, if_neg hMark]
  · simp only [hShort]
    cases readUnits opening s <;> rfl
  · rintro a b c d next rest hMark'
    exact absurd hMark' hMark

theorem readUnits_unit {a b c d next : Char} {unit : Nat} (h : codeUnit? a b c d = some unit) :
    readUnits opening ('\\' :: 'u' :: a :: b :: c :: d :: next :: s) =
      withUnit unit (readUnits opening (next :: s)) := by
  rw [readUnits]
  simp only [h]
  cases readUnits opening (next :: s) <;> rfl

theorem readUnits_plain {c : Char} (hQuote : c ≠ '"') (hSlash : c ≠ '\\') (hSize : ¬ c.toNat < 0x20) :
    readUnits opening (c :: s) = withUnit c.toNat (readUnits opening s) := by
  rw [readUnits, if_neg hSize]
  · cases readUnits opening s <;> rfl
  · exact hQuote
  · intro hSame
    exact absurd hSame hSlash
  · intro a b c' d next rest hSame
    exact absurd hSame hSlash
  · intro d rest hSame
    exact absurd hSame hSlash

theorem isHexDigit_hexDigit : ∀ n : Nat, n < 16 → Text.isHexDigit (Text.hexDigit n) = true := by decide

/-- Four digits that are written for a number are read as that code unit. -/
theorem codeUnit?_hexDigits {n : Nat} (h : n < Nat.pow 16 4) :
    ∃ a b c d, Text.hexDigits 4 n = [a, b, c, d] ∧ codeUnit? a b c d = some n := by
  have hDigit (m : Nat) : Text.isHexDigit (Text.hexDigit (m % 16)) = true :=
    isHexDigit_hexDigit _ (Nat.mod_lt m (by decide))
  have hNumeral : Text.numeral 16 (Text.hexDigits 4 n) = n := by
    rw [Text.numeral_hexDigits]
    exact Nat.mod_eq_of_lt h
  refine ⟨_, _, _, _, rfl, ?_⟩
  rw [codeUnit?, if_pos (by simp only [List.all_cons, hDigit, List.all_nil, Bool.and_self])]
  exact congrArg some hNumeral

theorem readUnits_escape (c next : Char) :
    readUnits opening (escape c ++ next :: s) = withUnit c.toNat (readUnits opening (next :: s)) := by
  unfold escape
  split
  · subst c
    exact readUnits_short (by decide) rfl
  split
  · subst c
    exact readUnits_short (by decide) rfl
  split
  · subst c
    exact readUnits_short (by decide) rfl
  split
  · subst c
    exact readUnits_short (by decide) rfl
  split
  · subst c
    exact readUnits_short (by decide) rfl
  split
  · rename_i hEight
    rw [hEight]
    exact readUnits_short (e := Char.ofNat 8) (by decide) rfl
  split
  · rename_i hTwelve
    rw [hTwelve]
    exact readUnits_short (e := Char.ofNat 12) (by decide) rfl
  split
  · rename_i hSmall
    obtain ⟨a, b, c', d, hDigits, hUnit⟩ := codeUnit?_hexDigits (Nat.lt_trans hSmall (by decide))
    rw [hDigits]
    exact readUnits_unit hUnit
  · rename_i hQuote hSlash _ _ _ _ _ hSize
    exact readUnits_plain hQuote hSlash hSize

theorem readUnits_written (text rest : List Char) :
    readUnits opening (text.flatMap escape ++ '"' :: rest) = .ok (text.map Char.toNat, rest) := by
  induction text with
  | nil =>
    rw [List.flatMap_nil, List.nil_append, readUnits]
    rfl
  | cons c text ih =>
    obtain ⟨next, more, hMore⟩ : ∃ next more, text.flatMap escape ++ '"' :: rest = next :: more :=
      List.exists_cons_of_ne_nil (by simp)
    rw [List.flatMap_cons, List.append_assoc, hMore, readUnits_escape, ← hMore, ih]
    rfl

theorem joinSurrogates_codes (text : List Char) :
    joinSurrogates (text.map Char.toNat) = text.map Char.toNat := by
  induction text with
  | nil => rfl
  | cons c text ih =>
    cases text with
    | nil => rfl
    | cons d text =>
      have hHigh := Text.not_surrogate c
      rw [List.map_cons, List.map_cons, joinSurrogates, if_neg (by omega)]
      exact congrArg (c.toNat :: ·) ih

theorem ofCodes_codes (text : List Char) :
    Value.ofCodes (text.map Char.toNat) = .text (String.ofList text) := by
  have hValid : ∀ n ∈ text.map Char.toNat, n.isValidChar := by
    intro n hMem
    obtain ⟨c, _, rfl⟩ := List.mem_map.mp hMem
    exact c.valid
  have hBack : (text.map Char.toNat).map Char.ofNat = text := by
    rw [List.map_map]
    exact (List.map_congr_left fun c _ => Char.ofNat_toNat c).trans (List.map_id text)
  rw [Value.ofCodes, if_pos (List.all_eq_true.mpr fun n hMem => decide_eq_true (hValid n hMem)), hBack]

/-- A reader finds a value and leaves the rest. -/
def Gives {α : Type} {s : List Char} (step : Step s α) (a : α) (rest : List Char) : Prop :=
  ∃ h, step = .ok (a, ⟨rest, h⟩)

theorem gives_readString (text : String) :
    Gives (readString opening (text.toList.flatMap escape ++ '"' :: rest)) (.text text) rest := by
  have hUnits := @readUnits_written opening text.toList rest
  refine ⟨length_of_readUnits hUnits, ?_⟩
  unfold readString
  split
  · rename_i hFault
    rw [hUnits] at hFault
    cases hFault
  · rename_i hFound
    rw [hUnits] at hFound
    cases hFound
    simp only [joinSurrogates_codes, ofCodes_codes, String.ofList_toList]

end PageCheck.Json
