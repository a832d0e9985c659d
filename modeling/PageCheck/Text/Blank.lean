/-!
# Blank characters

Arguments of a call and empty lines are judged by the same class of blank characters. Stripping
removes a maximal blank run from both ends and nothing else.
-/

namespace PageCheck.Text

/-- White space of every script, the four information separators included. -/
def isBlank (c : Char) : Bool :=
  let n := c.toNat
  (9 ≤ n && n ≤ 13) || (0x1C ≤ n && n ≤ 0x20) || n == 0x85 || n == 0xA0 || n == 0x1680 ||
    (0x2000 ≤ n && n ≤ 0x200A) || n == 0x2028 || n == 0x2029 || n == 0x202F || n == 0x205F ||
    n == 0x3000

def stripLeft (s : List Char) : List Char := s.dropWhile isBlank

def stripRight (s : List Char) : List Char := (s.reverse.dropWhile isBlank).reverse

/-- The text without the blank runs at its two ends. -/
def strip (s : List Char) : List Char := stripRight (stripLeft s)

def isBlankText (s : List Char) : Bool := s.all isBlank

theorem length_dropWhile_le (p : Char → Bool) (s : List Char) :
    (s.dropWhile p).length ≤ s.length :=
  (List.dropWhile_sublist p).length_le

theorem length_strip_le (s : List Char) : (strip s).length ≤ s.length := by
  have h := length_dropWhile_le isBlank (s.dropWhile isBlank).reverse
  have h' := length_dropWhile_le isBlank s
  simp only [strip, stripRight, stripLeft, List.length_reverse] at *
  omega

end PageCheck.Text
