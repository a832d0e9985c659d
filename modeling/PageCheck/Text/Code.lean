/-!
# Codes

Among the numbers of characters a range is left out: two codes of it stand for one character
together, and none stands for a character by itself. What is put together from numbers may hold such
halves all the same, and they are kept apart from all characters.
-/

namespace PageCheck.Text

/-- The first code that stands for no character. -/
def firstHalf : Nat := 0xD800

def halfCount : Nat := 0x800

inductive Code where
  | char (c : Char)
  /-- A half, counted from the first one. -/
  | half (index : Fin halfCount)
deriving DecidableEq, Repr

abbrev Codes := List Code

namespace Code

instance : Coe Char Code := ⟨char⟩

def toNat : Code → Nat
  | char c => c.toNat
  | half index => firstHalf + index

def ofNat? (n : Nat) : Option Code :=
  if n.isValidChar then some (Char.ofNat n)
  else if h : n - firstHalf < halfCount then some (half ⟨n - firstHalf, h⟩)
  else none

/-- Whether it is a character with a property. -/
def is (p : Char → Bool) : Code → Bool
  | char c => p c
  | half _ => false

def map (f : Char → Char) : Code → Code
  | char c => f c
  | half index => half index

/-- A half is shown by the character that stands for what cannot be shown. -/
def shown : Code → Char
  | char c => c
  | half _ => '\uFFFD'

def isHalf : Code → Bool
  | char _ => false
  | half _ => true

def char? : Code → Option Char
  | char c => some c
  | half _ => none

theorem ofNat?_eq_none_iff {n : Nat} : ofNat? n = none ↔ 0x10FFFF < n := by
  unfold ofNat?
  split
  · rename_i hValid
    refine iff_of_false nofun ?_
    have : n < 0xD800 ∨ 0xDFFF < n ∧ n < 0x110000 := hValid
    omega
  · rename_i hValid
    have hRange : ¬ (n < 0xD800 ∨ 0xDFFF < n ∧ n < 0x110000) := hValid
    split
    · rename_i hHalf
      refine iff_of_false nofun ?_
      unfold firstHalf halfCount at hHalf
      omega
    · rename_i hHalf
      refine iff_of_true rfl ?_
      unfold firstHalf halfCount at hHalf
      omega

end Code

namespace Codes

def ofChars (s : List Char) : Codes := s.map Code.char

def ofString (s : String) : Codes := ofChars s.toList

instance : Coe String Codes := ⟨ofString⟩

def shown (s : Codes) : String := String.ofList (s.map Code.shown)

/-- The text that the codes are, if they are all characters. -/
def text? (s : Codes) : Option String := (s.mapM Code.char?).map String.ofList

def lowerBasic (s : Codes) : Codes := s.map (Code.map Char.toLower)

@[simp] theorem ofChars_nil : ofChars [] = [] := rfl

@[simp] theorem ofChars_cons (c : Char) (s : List Char) : ofChars (c :: s) = Code.char c :: ofChars s :=
  rfl

@[simp] theorem ofChars_append (s t : List Char) : ofChars (s ++ t) = ofChars s ++ ofChars t :=
  List.map_append

theorem ofChars_inj {s t : List Char} : ofChars s = ofChars t ↔ s = t :=
  List.map_inj_right fun _ _ => Code.char.inj

theorem ofString_append (s t : String) : ofString (s ++ t) = ofString s ++ ofString t := by
  rw [ofString, String.toList_append, ofChars_append]
  rfl

theorem ofString_inj {s t : String} : ofString s = ofString t ↔ s = t :=
  ofChars_inj.trans String.toList_inj

end Codes

end PageCheck.Text
