/-!
# Single-byte character sets

The bytes from 0x80 to 0x9F are printable characters in the Windows set for western languages,
except for five that stand for nothing; the other bytes are the characters of the same number.
-/

namespace PageCheck.Text

/-- The characters of the bytes from 0x80 on; zero marks a byte that stands for nothing. -/
def windowsHigh : List Nat :=
  [0x20AC, 0, 0x201A, 0x192, 0x201E, 0x2026, 0x2020, 0x2021, 0x2C6, 0x2030, 0x160, 0x2039, 0x152,
    0, 0x17D, 0, 0, 0x2018, 0x2019, 0x201C, 0x201D, 0x2022, 0x2013, 0x2014, 0x2DC, 0x2122, 0x161,
    0x203A, 0x153, 0, 0x17E, 0x178]

def windowsChar? (byte : Nat) : Option Char :=
  if 0x80 ≤ byte && byte < 0xA0 then
    match windowsHigh[byte - 0x80]? with
    | some 0 => none
    | some code => some (Char.ofNat code)
    | none => none
  else some (Char.ofNat byte)

end PageCheck.Text
