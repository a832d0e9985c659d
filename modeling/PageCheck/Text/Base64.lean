/-!
# Bytes as letters

Three bytes are written as four letters; equals signs fill up the last group. Characters that stand
for nothing are passed over.
-/

namespace PageCheck.Text

def sixBits? (c : Char) : Option Nat :=
  if 'A' ≤ c && c ≤ 'Z' then some (c.toNat - 65)
  else if 'a' ≤ c && c ≤ 'z' then some (c.toNat - 71)
  else if c.isDigit then some (c.toNat + 4)
  else if c = '+' then some 62
  else if c = '/' then some 63
  else none

/-- The bits of a text up to the signs that fill up its last group, or nothing if a group is left
unfinished. `bits` holds the bits of the current group so far, `held` how many letters they are
from, and `fill` the number of signs in a row. -/
def groups? (held fill bits : Nat) : List Char → Option (List Nat)
  | [] => if held = 0 then some [] else none
  | '=' :: rest =>
    if 2 ≤ held && 4 ≤ held + fill + 1 then some [] else groups? held (fill + 1) bits rest
  | c :: rest =>
    match sixBits? c with
    | none => groups? held fill bits rest
    | some n =>
      let bits := bits * 64 + n
      match held with
      | 0 => groups? 1 0 n rest
      | 1 => (groups? 2 0 (bits % 16) rest).map (bits / 16 :: ·)
      | 2 => (groups? 3 0 (bits % 4) rest).map (bits / 4 :: ·)
      | _ => (groups? 0 0 0 rest).map (bits :: ·)

def fromBase64? (s : List Char) : Option (List UInt8) :=
  (groups? 0 0 0 s).map fun bytes => bytes.map UInt8.ofNat

end PageCheck.Text
