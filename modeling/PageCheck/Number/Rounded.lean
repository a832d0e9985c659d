import PageCheck.Number.Layout

/-!
# Numbers with a given number of digits

A number is rounded to so many digits and written with a point, with a power of ten, or in
whichever of the two ways is the shorter one for its size.
-/

namespace PageCheck

inductive Notation where
  | fixed
  | power
  | general
deriving DecidableEq, Repr

namespace Rounded

def digitsAt (num den : Nat) (shift : Int) : Nat :=
  if 0 ≤ shift then Binary64.roundDiv (num * Nat.pow 10 shift.toNat) den
  else Binary64.roundDiv num (den * Nat.pow 10 (-shift).toNat)

def padded (width n : Nat) : List Char :=
  let digits := Nat.toDigits 10 n
  List.replicate (width - digits.length) '0' ++ digits

/-- A point and what follows it; `keep` asks for the point even if nothing does. -/
def behindPoint (keep : Bool) (digits : List Char) : List Char :=
  if digits.isEmpty && !keep then [] else '.' :: digits

def withoutZeros (digits : List Char) : List Char :=
  (digits.reverse.dropWhile (· == '0')).reverse

def fixed (keep trim : Bool) (places num den : Nat) : List Char :=
  let digits := padded (places + 1) (digitsAt num den places)
  let whole := digits.take (digits.length - places)
  let rest := digits.drop (digits.length - places)
  whole ++ behindPoint keep (if trim then withoutZeros rest else rest)

/-- The digits from the first one on, one and so many more, and the power of ten of the first. -/
def leading (places num den : Nat) : Nat × Int :=
  if num = 0 then (0, 0)
  else
    let lead := Binary64.leadingPower num den
    let digits := digitsAt num den (places - lead)
    if Nat.pow 10 (places + 1) ≤ digits then (digits / 10, lead + 1) else (digits, lead)

/-- One digit before the point and so many behind it, and the power of ten. -/
def scientific (keep trim : Bool) (places num den : Nat) : List Char :=
  let (n, lead) := leading places num den
  let digits := padded (places + 1) n
  let rest := digits.drop 1
  digits.take 1 ++ behindPoint keep (if trim then withoutZeros rest else rest) ++
    'e' :: (if lead < 0 then '-' else '+') :: padded 2 lead.natAbs

/-- So many digits in all, with a power of ten only for large and for small numbers. -/
def general (keep : Bool) (places num den : Nat) : List Char :=
  let places := max places 1
  let (_, lead) := leading (places - 1) num den
  if -4 ≤ lead && lead < places then fixed keep (!keep) (places - 1 - lead).toNat num den
  else scientific keep (!keep) (places - 1) num den

def magnitude (mode : Notation) (keep : Bool) (places : Nat) : Binary64 → List Char
  | .nan => "nan".toList
  | .infinite _ => "inf".toList
  | .finite _ m e =>
    let (num, den) := Binary64.scaled 2 m e
    match mode with
    | .fixed => fixed keep false places num den
    | .power => scientific keep false places num den
    | .general => general keep places num den

end Rounded

end PageCheck
