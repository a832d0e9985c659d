import PageCheck.Number.Binary64
import PageCheck.Text.Blank
import PageCheck.Text.Digit

/-!
# Numbers in texts

Numbers as people type them: blanks around, a sign in front, digits of any script, and single
underscores between the digits. A decimal number may have a point and a power of ten, or be the
name of infinity or of the missing number.
-/

namespace PageCheck.Literal

/-- A text without blanks around it, with basic digits for all others. -/
def normal (s : List Char) : List Char := (Text.strip s).map Text.plainDigit

/-- The digits of a text of digits with single underscores between them. -/
def digitGroups? (s : List Char) : Option (List Char) :=
  match s with
  | [] => none
  | [c] => if c.isDigit then some [c] else none
  | c :: '_' :: rest => if c.isDigit then (digitGroups? rest).map (c :: ·) else none
  | c :: rest => if c.isDigit then (digitGroups? rest).map (c :: ·) else none

def takeSign (s : List Char) : Bool × List Char :=
  match s with
  | '-' :: rest => (true, rest)
  | '+' :: rest => (false, rest)
  | _ => (false, s)

def whole? (s : List Char) : Option Int :=
  let (negative, body) := takeSign (normal s)
  (digitGroups? body).map fun digits =>
    if negative then -(Text.numeral 10 digits : Int) else Text.numeral 10 digits

def baseMark (base : Nat) : Char :=
  match base with
  | 2 => 'b'
  | 8 => 'o'
  | _ => 'x'

/-- The whole number that a text without underscores writes to base two, eight or sixteen; the
mark of the base may stand before the digits. -/
def based? (base : Nat) (s : List Char) : Option Int :=
  let (negative, body) := takeSign (normal s)
  let digits := match body with
    | '0' :: c :: rest => if c.toLower = baseMark base then rest else body
    | _ => body
  if digits.isEmpty || !digits.all (fun c => (Text.hexValue? c).any (· < base)) then none
  else
    let n := Text.numeral base digits
    some (if negative then -n else n)

def optionalDigits? (s : List Char) : Option (List Char) :=
  if s.isEmpty then some [] else digitGroups? s

/-- The power of ten behind its mark; without a mark it is zero. -/
def power? (s : List Char) : Option Int :=
  match s with
  | [] => some 0
  | c :: rest =>
    if c = 'e' || c = 'E' then
      let (negative, body) := takeSign rest
      (digitGroups? body).map fun digits =>
        if negative then -(Text.numeral 10 digits : Int) else Text.numeral 10 digits
    else none

def isPowerMark (c : Char) : Bool := c == 'e' || c == 'E'

/-- The number that a text without a sign writes in digits. -/
def unsigned? (negative : Bool) (s : List Char) : Option Binary64 := do
  let mantissa := s.takeWhile (!isPowerMark ·)
  let power ← power? (s.dropWhile (!isPowerMark ·))
  let whole ← optionalDigits? (mantissa.takeWhile (· != '.'))
  let fraction ← optionalDigits? ((mantissa.dropWhile (· != '.')).drop 1)
  if whole.isEmpty && fraction.isEmpty then none
  else some (Binary64.ofDecimal negative (Text.numeral 10 (whole ++ fraction)) (power - fraction.length))

def named? (negative : Bool) (s : List Char) : Option Binary64 :=
  match String.ofList (s.map Char.toLower) with
  | "inf" => some (.infinite negative)
  | "infinity" => some (.infinite negative)
  | "nan" => some .nan
  | _ => none

/-- The number that a text without blanks writes in basic digits, rounded to the nearest one there
is. -/
def plainDecimal? (s : List Char) : Option Binary64 :=
  let (negative, body) := takeSign s
  (named? negative body).or (unsigned? negative body)

def decimal? (s : List Char) : Option Binary64 := plainDecimal? (normal s)

end PageCheck.Literal
