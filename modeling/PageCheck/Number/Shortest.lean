import PageCheck.Number.Binary64

/-!
# The shortest decimal of a double-precision number

Every real between the midpoints to the neighbours of a number rounds to it. The shortest decimal
has the fewest digits among those that lie there; of two the nearer is taken. For each number of
digits only the two decimals around the number itself need to be looked at.
-/

namespace PageCheck

/-- The positive decimal `digits · 10 ^ exponent`. -/
structure Decimal where
  digits : Nat
  exponent : Int
deriving DecidableEq, Repr

namespace Decimal

def width (n : Nat) : Nat := (Nat.toDigits 10 n).length

/-- The decimal without the zeros at the end of its digits. -/
def trim (d : Decimal) : Nat → Decimal
  | 0 => d
  | k + 1 =>
    if d.digits % 10 = 0 && d.digits != 0 then trim ⟨d.digits / 10, d.exponent + 1⟩ k else d

end Decimal

namespace Binary64

/-- The reals that round to `m · 2 ^ e`, as bounds over the common denominator of a quarter of
that power, and whether the bounds themselves round to it. -/
structure Interval where
  low : Nat
  value : Nat
  high : Nat
  unit : Int
  closed : Bool

def intervalOf (m : Nat) (e : Int) : Interval :=
  let below := if m = Nat.pow 2 52 && minExponent < e then 4 * m - 1 else 4 * m - 2
  ⟨below, 4 * m, 4 * m + 2, e - 2, m % 2 == 0⟩

/-- The power of ten of the first digit of a positive quotient. -/
def leadingPower (num den : Nat) : Int :=
  (Decimal.width (num * Nat.pow 10 400 / den) : Int) - 401

/-- The decimal on the grid `10 ^ k` that lies in the interval and is nearest to the value; from
the middle the even one. -/
def onGrid? (i : Interval) (k : Int) : Option Nat :=
  let (up, down) := scaled 2 1 i.unit
  let (tenUp, tenDown) := scaled 10 1 k
  -- Everything is compared over the denominator `down * tenUp`.
  let place (n : Nat) : Nat := n * up * tenDown
  let step := down * tenUp
  let lower := place i.value / step
  let inside (n : Nat) : Bool :=
    let x := n * step
    if i.closed then place i.low ≤ x && x ≤ place i.high
    else place i.low < x && x < place i.high
  let upper := lower + 1
  let toLower := place i.value - lower * step
  let toUpper := upper * step - place i.value
  match lower != 0 && inside lower, inside upper with
  | true, true =>
    if toLower < toUpper || (toLower == toUpper && lower % 2 == 0) then some lower else some upper
  | true, false => some lower
  | false, true => some upper
  | false, false => none

/-- The decimal with the fewest digits that rounds to `m · 2 ^ e`, where `m` is not zero. -/
def shortest (m : Nat) (e : Int) : Decimal :=
  let i := intervalOf m e
  let (num, den) := scaled 2 m e
  let lead := leadingPower num den
  let found := (List.range 17).findSome? fun (n : Nat) =>
    let k := lead - (n : Int)
    (onGrid? i k).map fun digits => (⟨digits, k⟩ : Decimal)
  (found.getD ⟨num / den, 0⟩).trim 20

end Binary64

end PageCheck
