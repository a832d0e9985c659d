import PageCheck.Html.Entity.Table
import PageCheck.Html.Fault
import PageCheck.Text.Blank
import PageCheck.Text.Charset
import PageCheck.Text.Code
import PageCheck.Text.Digit

/-!
# Character references

References in the text of a page and in the values of attributes follow different rules. In text a
name is taken whole, with or without a semicolon, and an unknown one stands as it is. In a value a
name without a semicolon is one of the old ones, and the longest that fits is taken.
-/

namespace PageCheck.Html.Entity

open Text (isHexDigit numeral)

def replacement : Char := '\uFFFD'

/-- The characters that a name stands for, the semicolon left out. -/
def named? (name : List Char) : Option (List Char) :=
  (table.find? (·.1.toList == name)).map (·.2.toList)

def isBare (name : List Char) : Bool := bareNames.any (·.toList == name)

/-- The number in a reference: hexadecimal after an `x`, else decimal. -/
def referenceNumber (body : List Char) : Except Fault Nat :=
  match body with
  | c :: digits =>
    if c = 'x' || c = 'X' then .ok (numeral 16 digits)
    else if Text.digitLimit < body.length then .error (.longReference body.length)
    else .ok (numeral 10 body)
  | [] => .ok 0

/-- The character of a small number, which is a byte of the Windows set. -/
def byteChar (n : Nat) : Char := (Text.windowsChar? n).getD (Char.ofNat n)

/-- What a numeric reference in text stands for, which need not be a character. -/
def textCode (n : Nat) : Text.Code :=
  if n < 256 then byteChar n else (Text.Code.ofNat? n).getD replacement

/-- Numbers that stand for no character at all in a value. -/
def isDropped (n : Nat) : Bool :=
  (1 ≤ n && n ≤ 8) || n == 0xB || (0xE ≤ n && n ≤ 0x1F) || n == 0x7F ||
    (0xFDD0 ≤ n && n ≤ 0xFDEF) || (0xFFFE ≤ n && n % 0x10000 ≥ 0xFFFE)

def valueChars (n : Nat) : List Char :=
  if n = 0 then [replacement]
  else if 0x80 ≤ n && n < 0xA0 then [byteChar n]
  else if !n.isValidChar then [replacement]
  else if isDropped n then []
  else [Char.ofNat n]

/-- The characters of a named reference in a value; `closed` tells whether a semicolon follows. -/
def valueName (name : List Char) (closed : Bool) : List Char :=
  let whole := if closed then name ++ [';'] else name
  match named? name with
  | some chars => if closed || isBare name then chars else longest name.length name whole
  | none => longest whole.length whole whole
where
  /-- The longest old name at the front, of less than the given length. -/
  longest : Nat → List Char → List Char → List Char
    | 0, _, whole => '&' :: whole
    | k + 1, name, whole =>
      if 2 ≤ k && isBare (whole.take k) then
        ((named? (whole.take k)).getD []) ++ whole.drop k
      else longest k name whole

/-- The longest name that is looked at in a value. -/
def nameLimit : Nat := 32

def isValueNameChar (c : Char) : Bool :=
  !(c == '\t' || c == '\n' || c == '\x0c' || c == ' ' || c == '<' || c == '&' || c == '#' ||
    c == ';')

def afterSemicolon : List Char → List Char
  | ';' :: rest => rest
  | rest => rest

theorem afterSemicolon_suffix (s : List Char) : afterSemicolon s <:+ s := by
  unfold afterSemicolon
  split
  · exact List.suffix_cons _ _
  · exact List.suffix_rfl

def valueNameOf (s : List Char) : List Char := (s.take nameLimit).takeWhile isValueNameChar

/-- The reference that begins after an ampersand in a value: its characters and the rest. -/
def valueReference? (s : List Char) : Option (Except Fault (List Char) × List Char) :=
  match s with
  | '#' :: body =>
    let (mark, digits, after) := match body with
      | c :: more =>
        if c = 'x' || c = 'X' then ([c], more.takeWhile isHexDigit, more.dropWhile isHexDigit)
        else ([], body.takeWhile Char.isDigit, body.dropWhile Char.isDigit)
      | [] => ([], [], [])
    if digits.isEmpty then none
    else some ((referenceNumber (mark ++ digits)).map valueChars, afterSemicolon after)
  | _ =>
    if (valueNameOf s).isEmpty then none
    else
      some (.ok (valueName (valueNameOf s) ((s.drop (valueNameOf s).length).head? == some ';')),
        afterSemicolon (s.drop (valueNameOf s).length))

theorem length_valueReference? {s rest : List Char} {r : Except Fault (List Char)}
    (h : valueReference? s = some (r, rest)) : rest.length ≤ s.length := by
  unfold valueReference? at h
  split at h
  · rename_i body
    split at h
    rename_i mark digits after heq
    split at h
    · cases h
    · have hafter : after.length ≤ body.length := by
        split at heq
        · rename_i c more
          split at heq
          · cases heq
            have := (List.dropWhile_sublist isHexDigit (l := more)).length_le
            simp only [List.length_cons]
            omega
          · cases heq
            exact (List.dropWhile_sublist _).length_le
        · cases heq
          simp
      cases h
      have := (afterSemicolon_suffix after).length_le
      simp only [List.length_cons]
      omega
  · split at h
    · cases h
    · cases h
      have := (afterSemicolon_suffix (s.drop (valueNameOf s).length)).length_le
      simp only [List.length_drop] at this
      omega

/-- A value with its references replaced. -/
def decodeValue (s : List Char) : Except Fault (List Char) :=
  match s with
  | [] => .ok []
  | '&' :: rest =>
    match h : valueReference? rest with
    | some (chars, after) =>
      have := length_valueReference? h
      do
        let chars ← chars
        let others ← decodeValue after
        pure (chars ++ others)
    | none => (decodeValue rest).map ('&' :: ·)
  | c :: rest => (decodeValue rest).map (c :: ·)
termination_by s.length
decreasing_by
  all_goals simp_wf
  all_goals omega

end PageCheck.Html.Entity
