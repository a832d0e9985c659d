/-!
# Double-precision numbers

A number is kept by its sign, significand and power of two, so that rounding, comparison and
printing are exact arithmetic on natural numbers. Rounding goes to the nearest number, and from
the middle to the even significand.
-/

namespace PageCheck

/-- A finite number is `± significand · 2 ^ exponent`. -/
inductive Binary64 where
  | finite (negative : Bool) (significand : Nat) (exponent : Int)
  | infinite (negative : Bool)
  | nan
deriving DecidableEq, Repr

namespace Binary64

def minExponent : Int := -1074
def maxExponent : Int := 971

/-- The number of significand values: a normal significand lies in the upper half. -/
def significandBound : Nat := Nat.pow 2 53

/-- The quotient rounded to the nearest whole number, from the middle to the even one. -/
def roundDiv (num den : Nat) : Nat :=
  let q := num / den
  let twice := 2 * (num % den)
  if den < twice || (twice == den && q % 2 == 1) then q + 1 else q

/-- Numerator and denominator of `n · base ^ e`. -/
def scaled (base n : Nat) (e : Int) : Nat × Nat :=
  if 0 ≤ e then (n * Nat.pow base e.toNat, 1) else (n, Nat.pow base (-e).toNat)

/-- The exponent that gives the quotient a significand of full width, or the least exponent. -/
def exponentFor (num den : Nat) : Int :=
  let guess : Int := (Nat.log2 num : Int) - (Nat.log2 den : Int) - 52
  let (p, q) := scaled 2 den (guess + 52)
  let exact := if num * q < p then guess - 1 else guess
  max exact minExponent

/-- The number nearest to a quotient of natural numbers. -/
def ofRatio (negative : Bool) (num den : Nat) : Binary64 :=
  if num = 0 || den = 0 then finite negative 0 minExponent
  else
    let e := exponentFor num den
    let (up, down) := scaled 2 1 (-e)
    let m := roundDiv (num * up) (den * down)
    let (m, e) := if m = significandBound then (Nat.pow 2 52, e + 1) else (m, e)
    if maxExponent < e then infinite negative else finite negative m e

/-- The number nearest to `± digits · 10 ^ exponent`. Exponents far out of range are cut short. -/
def ofDecimal (negative : Bool) (digits : Nat) (exponent : Int) : Binary64 :=
  if digits = 0 then finite negative 0 minExponent
  else if 400 < exponent then infinite negative
  else if exponent + (Nat.log2 digits : Int) < -1200 then finite negative 0 minExponent
  else
    let (num, den) := scaled 10 digits exponent
    ofRatio negative num den

def ofInt (n : Int) : Binary64 := ofRatio (n < 0) n.natAbs 1

def zero : Binary64 := finite false 0 minExponent

def isFinite : Binary64 → Bool
  | finite .. => true
  | _ => false

def isPositive : Binary64 → Bool
  | finite negative m _ => !negative && m != 0
  | infinite negative => !negative
  | nan => false

def isZero : Binary64 → Bool
  | finite _ m _ => m == 0
  | _ => false

/-- The value of a finite number as a whole number of the least steps there are. -/
def inSteps (negative : Bool) (m : Nat) (e : Int) : Int :=
  let n : Int := (m * Nat.pow 2 (e - minExponent).toNat : Nat)
  if negative then -n else n

/-- The number nearest to so many of the least steps there are. -/
def ofSteps (n : Int) : Binary64 := ofRatio (n < 0) n.natAbs (Nat.pow 2 (-minExponent).toNat)

def scale (n : Nat) : Binary64 → Binary64
  | finite negative m e => ofSteps (inSteps negative m e * n)
  | x => x

def add : Binary64 → Binary64 → Binary64
  | finite a m e, finite b n f => ofSteps (inSteps a m e + inSteps b n f)
  | finite .., y => y
  | x, _ => x

def opposite : Binary64 → Binary64
  | finite negative m e => finite (!negative) m e
  | infinite negative => infinite (!negative)
  | nan => nan

/-- Whether one number is less than another one; nothing is less or more than no number. -/
def below : Binary64 → Binary64 → Bool
  | nan, _ => false
  | _, nan => false
  | infinite a, infinite b => a && !b
  | infinite a, finite .. => a
  | finite .., infinite b => !b
  | finite a m e, finite b n f => inSteps a m e < inSteps b n f

/-- The whole number that a finite number without a fractional part is. -/
def toInt? : Binary64 → Option Int
  | finite negative m e =>
    let (num, den) := scaled 2 m e
    if num % den = 0 then
      let n : Int := (num / den : Nat)
      some (if negative then -n else n)
    else none
  | _ => none

end Binary64

end PageCheck
