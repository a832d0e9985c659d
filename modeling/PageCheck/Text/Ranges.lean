/-!
# Ranges of characters

Sets of characters are tables of runs of consecutive numbers.
-/

namespace PageCheck.Text

/-- A set of characters as the first and the last number of each of its runs. -/
abbrev Ranges := List (Nat × Nat)

def Ranges.has (ranges : Ranges) (c : Char) : Bool :=
  ranges.any fun (first, last) => first ≤ c.toNat && c.toNat ≤ last

end PageCheck.Text
