import PageCheck.Number.Shortest

/-!
# Written numbers

A layout says from where on a number is written with a power of ten and how that power looks.
Two layouts are in use: one for messages and one for the printed configuration.
-/

namespace PageCheck

/-- How the shortest decimal of a number is written. -/
structure Layout where
  /-- The least power of the first digit that is written positionally. -/
  lowest : Int
  /-- The greatest power of the first digit that is written positionally. -/
  highest : Int
  /-- The least number of digits of a written power. -/
  powerWidth : Nat
  infinity : String
  negativeInfinity : String
  nan : String

namespace Layout

def message : Layout := ⟨-4, 15, 2, "inf", "-inf", "nan"⟩

def printed : Layout := ⟨-5, 15, 1, "null", "null", "null"⟩

def zeros (n : Int) : List Char := List.replicate n.toNat '0'

/-- Digits with a point after the digit of power zero. -/
def positional (digits : List Char) (lead : Int) : List Char :=
  if lead < 0 then '0' :: '.' :: zeros (-lead - 1) ++ digits
  else
    let whole := digits.take (lead + 1).toNat
    let rest := digits.drop (lead + 1).toNat
    whole ++ zeros (lead + 1 - digits.length) ++ '.' :: (if rest.isEmpty then ['0'] else rest)

/-- The first digit, a point before the others, and the power of ten. -/
def scientific (layout : Layout) (digits : List Char) (lead : Int) : List Char :=
  let power := Nat.toDigits 10 lead.natAbs
  let padded := List.replicate (layout.powerWidth - power.length) '0' ++ power
  let sign := if lead < 0 then '-' else '+'
  let fraction := match digits.drop 1 with
    | [] => []
    | rest => '.' :: rest
  digits.take 1 ++ fraction ++ 'e' :: sign :: padded

def write (layout : Layout) : Binary64 → String
  | .nan => layout.nan
  | .infinite false => layout.infinity
  | .infinite true => layout.negativeInfinity
  | .finite negative m e =>
    let sign := if negative then "-" else ""
    if m = 0 then sign ++ "0.0"
    else
      let d := Binary64.shortest m e
      let digits := Nat.toDigits 10 d.digits
      let lead := d.exponent + digits.length - 1
      let body := if layout.lowest ≤ lead && lead ≤ layout.highest then positional digits lead
        else layout.scientific digits lead
      sign ++ String.ofList body

end Layout

end PageCheck
