import PageCheck.Json.Reader
import PageCheck.Json.Writer
import PageCheck.Proofs.Text.Decimal
import PageCheck.Proofs.Text.Run

/-!
# Whole numbers in JSON

A whole number is written as its digits, behind a hyphen if it is negative, as everywhere else. It
is read again if it does not have more digits than a number may have, and if what follows it is what
can follow a value.
-/

namespace PageCheck.Json

set_option autoImplicit false

theorem writeInt_negSucc (n : Nat) : writeInt (.negSucc n) = '-' :: Nat.toDigits 10 (n + 1) := by
  rw [writeInt, if_pos (Int.negSucc_lt_zero n)]
  rfl

theorem toList_toString_int (n : Int) : (toString n).toList = writeInt n := by
  cases n with
  | ofNat n => exact Nat.toList_repr
  | negSucc n =>
    rw [writeInt_negSucc, ← Nat.toList_repr]
    exact String.toList_append

theorem writeInt_injective {m n : Int} (h : writeInt m = writeInt n) : m = n := by
  -- No digit is a hyphen, so the sign can be told from the text.
  have hDigits (a b : Nat) : Nat.toDigits 10 a ≠ '-' :: Nat.toDigits 10 b := by
    intro hSame
    have hDigit : '-'.isDigit = true :=
      Text.isDigit_of_mem_toDigits (hSame ▸ List.mem_cons_self)
    cases hDigit
  cases m with
  | ofNat m =>
    cases n with
    | ofNat n => exact congrArg Int.ofNat (Text.toDigits_injective h)
    | negSucc n =>
      rw [writeInt_negSucc] at h
      exact absurd h (hDigits m (n + 1))
  | negSucc m =>
    cases n with
    | ofNat n =>
      rw [writeInt_negSucc] at h
      exact absurd h.symm (hDigits n (m + 1))
    | negSucc n =>
      rw [writeInt_negSucc, writeInt_negSucc] at h
      have hSame := Text.toDigits_injective (List.cons.inj h).2
      rw [Nat.succ.inj hSame]

theorem toString_int_injective {m n : Int} (h : toString m = toString n) : m = n := by
  apply writeInt_injective
  rw [← toList_toString_int, h, toList_toString_int]

/-- Whether a text begins with what can follow a value, or is at its end. -/
def EndsValue (rest : List Char) : Prop :=
  ∀ c ∈ rest.head?, (c == ',' || c == ']' || c == '}' || isSpace c) = true

variable {rest : List Char}

theorem endsValue_cases (h : EndsValue rest) : rest = [] ∨ ∃ c more, rest = c :: more ∧
    (c = ',' ∨ c = ']' ∨ c = '}' ∨ c = ' ' ∨ c = '\t' ∨ c = '\n' ∨ c = '\r') := by
  cases rest with
  | nil => exact Or.inl rfl
  | cons c more =>
    refine Or.inr ⟨c, more, rfl, ?_⟩
    simpa [isSpace, or_assoc] using h c rfl

theorem isDigit_of_endsValue (h : EndsValue rest) : ∀ c ∈ rest.head?, c.isDigit = false := by
  rcases endsValue_cases h with rfl | ⟨c, more, rfl, hMark⟩
  · rintro c ⟨⟩
  · rintro d ⟨⟩
    rcases hMark with rfl | rfl | rfl | rfl | rfl | rfl | rfl <;> rfl

theorem fraction_of_endsValue (h : EndsValue rest) : fraction rest = ([], rest) := by
  rcases endsValue_cases h with rfl | ⟨c, more, rfl, hMark⟩
  · rfl
  · rcases hMark with rfl | rfl | rfl | rfl | rfl | rfl | rfl <;> rfl

theorem power?_of_endsValue (h : EndsValue rest) : power? rest = (none, rest) := by
  rcases endsValue_cases h with rfl | ⟨c, more, rfl, hMark⟩
  · rfl
  · rcases hMark with rfl | rfl | rfl | rfl | rfl | rfl | rfl <;> rfl

theorem number_toDigits {n : Nat} (hSize : n < Nat.pow 10 Text.digitLimit) (hRest : EndsValue rest)
    (negative : Bool) : number negative (Nat.toDigits 10 n ++ rest) =
      .ok (.int (if negative then -(n : Int) else n), rest) := by
  have hDigits : ∀ c ∈ Nat.toDigits 10 n, c.isDigit = true := fun c => Text.isDigit_of_mem_toDigits
  have hRun : digitRun (Nat.toDigits 10 n ++ rest) = (Nat.toDigits 10 n, rest) := by
    rw [digitRun, Text.takeWhile_run hDigits (isDigit_of_endsValue hRest),
      Text.dropWhile_run hDigits (isDigit_of_endsValue hRest)]
  have hLength : ¬ Text.digitLimit < (Nat.toDigits 10 n).length :=
    Nat.not_lt.mpr (Text.length_toDigits_le (by decide) hSize)
  have hSome : (Nat.toDigits 10 n).isEmpty = false := List.isEmpty_eq_false_iff.mpr Nat.toDigits_ne_nil
  have hEnd : (if Text.digitLimit < (Nat.toDigits 10 n).length then
        stop (.longNumber (Nat.toDigits 10 n).length) (Nat.toDigits 10 n ++ rest)
      else .ok (.int (if negative then -(Text.numeral 10 (Nat.toDigits 10 n) : Int)
        else Text.numeral 10 (Nat.toDigits 10 n)), rest) : Except Stop (Value × List Char)) =
      .ok (.int (if negative then -(n : Int) else n), rest) := by
    rw [if_neg hLength, Text.numeral_toDigits]
  unfold number
  split
  · -- Only zero begins with a zero.
    rename_i tail hText
    obtain rfl : n = 0 := by
      rcases Nat.eq_zero_or_pos n with hZero | hPos
      · exact hZero
      · obtain ⟨c, more, hFirst⟩ := List.exists_cons_of_ne_nil (Nat.toDigits_ne_nil (n := n) (b := 10))
        rw [hFirst] at hText
        exact absurd (List.cons.inj hText).1 (Text.head?_toDigits_ne_zero hPos c (by rw [hFirst]; rfl))
    obtain rfl : rest = tail := (List.cons.inj hText).2
    simpa [fraction_of_endsValue hRest, power?_of_endsValue hRest] using hEnd
  · rw [hRun]
    simpa [hSome, fraction_of_endsValue hRest, power?_of_endsValue hRest] using hEnd

def named? (s : List Char) : Option (Value × List Char) :=
  names.findSome? fun (word, v) => (after? word s).map (v, ·)

/-- No name begins as a number does. -/
theorem named?_number {c : Char} (h : c.isDigit = true) (negative : Bool) (s : List Char) :
    named? (if negative then '-' :: c :: s else c :: s) = none := by
  have hNot (d : Char) (hMark : d.isDigit = false) : (d == c) = false := by
    rw [beq_eq_false_iff_ne]
    rintro rfl
    rw [hMark] at h
    cases h
  rw [named?, List.findSome?_eq_none_iff]
  intro word hMem
  simp only [names, List.mem_cons, List.not_mem_nil, or_false] at hMem
  cases negative <;> rcases hMem with rfl | rfl | rfl | rfl | rfl | rfl <;>
    simp [after?, List.isPrefixOf, hNot]

theorem exists_digit (n : Nat) :
    ∃ c more, Nat.toDigits 10 n = c :: more ∧ c.isDigit = true := by
  obtain ⟨c, more, hDigits⟩ := List.exists_cons_of_ne_nil (Nat.toDigits_ne_nil (n := n) (b := 10))
  exact ⟨c, more, hDigits, Text.isDigit_of_mem_toDigits (hDigits ▸ List.mem_cons_self)⟩

theorem exists_first (n : Int) :
    ∃ c more, writeInt n = c :: more ∧ (c.isDigit = true ∨ c = '-') := by
  cases n with
  | ofNat n =>
    obtain ⟨c, more, hDigits, hDigit⟩ := exists_digit n
    exact ⟨c, more, hDigits, Or.inl hDigit⟩
  | negSucc n => exact ⟨'-', _, writeInt_negSucc n, Or.inr rfl⟩

theorem atom_of_isDigit {c : Char} (h : c.isDigit = true) (s : List Char) :
    atom (c :: s) = number false (c :: s) := by
  have hNone := named?_number h false s
  unfold atom
  split
  · rename_i hFound
    cases hNone.symm.trans hFound
  · split
    · rename_i hHyphen
      cases (List.cons.inj hHyphen).1
      cases h
    · rfl

theorem atom_toDigits {n : Nat} (hSize : n < Nat.pow 10 Text.digitLimit) (hRest : EndsValue rest) :
    atom (Nat.toDigits 10 n ++ rest) = .ok (.int n, rest) := by
  have hNumber := number_toDigits hSize hRest false
  obtain ⟨c, more, hDigits, hDigit⟩ := exists_digit n
  rw [hDigits, List.cons_append] at hNumber ⊢
  rw [atom_of_isDigit hDigit]
  exact hNumber

theorem atom_hyphen {n : Nat} (hSize : n < Nat.pow 10 Text.digitLimit) (hRest : EndsValue rest) :
    atom ('-' :: (Nat.toDigits 10 n ++ rest)) = .ok (.int (-n), rest) := by
  have hNumber := number_toDigits hSize hRest true
  obtain ⟨c, more, hDigits, hDigit⟩ := exists_digit n
  have hNone := named?_number hDigit true (more ++ rest)
  rw [hDigits] at hNumber ⊢
  unfold atom
  split
  · rename_i hFound
    cases hNone.symm.trans hFound
  · simp only [hNumber]
    rfl

theorem atom_writeInt {n : Int} (hSize : n.natAbs < Nat.pow 10 Text.digitLimit) (hRest : EndsValue rest) :
    atom (writeInt n ++ rest) = .ok (.int n, rest) := by
  cases n with
  | ofNat n => exact atom_toDigits hSize hRest
  | negSucc n =>
    rw [writeInt_negSucc]
    exact atom_hyphen hSize hRest

end PageCheck.Json
