import Mathlib.Data.List.Basic
import PageCheck.Text.Digit

/-!
# Decimal numbers

The digits of a number are read as the number they were written for.
-/

namespace PageCheck.Text

set_option autoImplicit false

theorem isDigit_of_mem_toDigits {n : Nat} {c : Char} (h : c ∈ Nat.toDigits 10 n) :
    c.isDigit = true := Nat.isDigit_of_mem_toDigits (by decide) (by decide) h

theorem hexValue?_of_isDigit {c : Char} (h : c.isDigit = true) :
    hexValue? c = some (c.toNat - 48) := by rw [hexValue?, if_pos h]

theorem numeral_eq_ofDigitChars {digits : List Char} (h : ∀ c ∈ digits, c.isDigit = true) :
    numeral 10 digits = Nat.ofDigitChars 10 digits 0 := by
  rw [Nat.ofDigitChars_eq_foldl, numeral]
  apply List.foldl_ext
  intro n c hMem
  rw [hexValue?_of_isDigit (h c hMem), Option.getD_some, Nat.mul_comm]
  rfl

theorem numeral_toDigits (n : Nat) : numeral 10 (Nat.toDigits 10 n) = n := by
  rw [numeral_eq_ofDigitChars fun c hMem => isDigit_of_mem_toDigits hMem]
  exact Nat.ofDigitChars_ten_toDigits

theorem toDigits_injective {m n : Nat} (h : Nat.toDigits 10 m = Nat.toDigits 10 n) : m = n := by
  rw [← numeral_toDigits m, h, numeral_toDigits]

theorem head?_toDigits_ne_zero {n : Nat} (h : 0 < n) : ∀ c ∈ (Nat.toDigits 10 n).head?, c ≠ '0' := by
  induction n using Nat.strongRecOn with
  | ind n ih =>
    by_cases hSmall : n < 10
    · rw [Nat.toDigits_of_lt_base hSmall]
      rintro c ⟨⟩ hZero
      exact absurd (Nat.digitChar_eq_zero.mp hZero) (Nat.ne_of_gt h)
    · -- The first digit is that of the number without its last digit.
      have hParts : Nat.toDigits 10 (n / 10) ++ Nat.toDigits 10 (n % 10) = Nat.toDigits 10 n := by
        rw [Nat.toDigits_append_toDigits (by decide) (by omega) (by omega), Nat.div_add_mod]
      obtain ⟨c, more, hDigits⟩ := List.exists_cons_of_ne_nil (Nat.toDigits_ne_nil (n := n / 10) (b := 10))
      have hHead := ih (n / 10) (by omega) (by omega)
      rw [hDigits] at hHead
      rw [← hParts, hDigits]
      exact hHead

/-- A number has no more digits than the bound it is below. -/
theorem length_toDigits_le {n width : Nat} (hWidth : 0 < width) (h : n < Nat.pow 10 width) :
    (Nat.toDigits 10 n).length ≤ width :=
  (Nat.length_toDigits_le_iff (by decide) hWidth).mpr h

theorem ten_le_pow {width : Nat} (h : 0 < width) : 10 ≤ Nat.pow 10 width :=
  Nat.le_self_pow (Nat.ne_of_gt h) 10

theorem isLong_iff {n : Int} : isLong n = true ↔ Nat.pow 10 digitLimit ≤ n.natAbs := decide_eq_true_iff

theorem isLong_eq_false_iff {n : Int} : isLong n = false ↔ n.natAbs < Nat.pow 10 digitLimit := by
  rw [isLong, decide_eq_false_iff_not, Nat.not_le]

theorem lt_pow_of_lt_ten {n : Nat} (h : n < 10) : n < Nat.pow 10 digitLimit :=
  Nat.lt_of_lt_of_le h (ten_le_pow (by decide))

theorem isLong_of_lt_ten {n : Int} (h : n.natAbs < 10) : isLong n = false :=
  isLong_eq_false_iff.mpr (lt_pow_of_lt_ten h)

/-- The least number with too many digits. -/
theorem isLong_pow : isLong (Nat.pow 10 digitLimit : Nat) = true :=
  isLong_iff.mpr (Nat.le_of_eq (Int.natAbs_natCast _).symm)

theorem isLong_neg (n : Int) : isLong (-n) = isLong n := by
  rw [isLong, Int.natAbs_neg]
  rfl

end PageCheck.Text
