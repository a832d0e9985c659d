import PageCheck.Number.Rounded
import PageCheck.Text.Blank
import PageCheck.Value.Outline

/-!
# Patterns

A pattern is text with directives: a percent sign, perhaps a name, how to write, and a letter for
what to write. Values come from a list in turn, or from a mapping by name. A pattern that does not
fit its values writes nothing at all.
-/

namespace PageCheck.Log

open Text (Code Codes)

/-- A number in a directive, written there or taken from the values. -/
inductive Extent where
  | fixed (n : Nat)
  | taken
deriving DecidableEq, Repr

structure Directive where
  key : Option Codes
  flags : Codes
  width : Option Extent
  precision : Option Extent
  letter : Code
deriving DecidableEq, Repr

namespace Directive

def has (d : Directive) (flag : Char) : Bool := d.flags.contains (.char flag)

/-- The name up to the parenthesis that closes it, and what follows. -/
def readKey (depth : Nat) : Codes → Option (Codes × Codes)
  | [] => none
  | ')' :: rest =>
    match depth with
    | 0 => some ([], rest)
    | depth + 1 => (readKey depth rest).map fun (key, rest) => (')' :: key, rest)
  | '(' :: rest => (readKey (depth + 1) rest).map fun (key, rest) => ('(' :: key, rest)
  | c :: rest => (readKey depth rest).map fun (key, rest) => (c :: key, rest)

def isFlag (c : Char) : Bool := "-+ #0".toList.contains c

def isSize (c : Char) : Bool := c == 'h' || c == 'l' || c == 'L'

def readExtent (s : Codes) : Option Extent × Codes :=
  match s with
  | '*' :: rest => (some .taken, rest)
  | _ =>
    let digits := s.takeWhile (Code.is Char.isDigit)
    if digits.isEmpty then (none, s)
    else (some (.fixed (Text.numeral 10 (digits.map Code.shown))), s.drop digits.length)

/-- A point with a number behind it; without one it stands for zero. -/
def readPrecision (s : Codes) : Option Extent × Codes :=
  match s with
  | '.' :: rest =>
    let (extent, rest) := readExtent rest
    (some (extent.getD (.fixed 0)), rest)
  | _ => (none, s)

def readRest (key : Option Codes) (s : Codes) : Option (Directive × Codes) :=
  let flags := s.takeWhile (Code.is isFlag)
  let (width, s) := readExtent (s.drop flags.length)
  let (precision, s) := readPrecision s
  let s := match s with
    | c :: rest => if c.is isSize then rest else s
    | [] => s
  match s with
  | letter :: rest => some (⟨key, flags, width, precision, letter⟩, rest)
  | [] => none

def read (s : Codes) : Option (Directive × Codes) :=
  match s with
  | '(' :: rest =>
    match readKey 0 rest with
    | some (key, rest) => readRest (some key) rest
    | none => none
  | _ => readRest none s

end Directive

/-- What a directive can write: a value, or a thing of which no more is known than how it is shown, if
it can be. -/
inductive Item where
  | value (v : Value)
  | thing (shown : Option String)

namespace Item

/-- How the item is shown among others. -/
def outline? : Item → Option String
  | value v => if v.hasLong then none else some v.outline
  | thing shown => shown

/-- How the item is shown by itself: a text is bare. -/
def text? : Item → Option Codes
  | value (.text s) => some s
  | value (.brokenText codes) => some codes
  | value (.date d) => some d.text
  | value (.moment m) => some m.text
  | other => other.outline?.map .ofString

end Item

inductive Arguments where
  | list (items : List Item)
  /-- A mapping, and what the next directive takes: the mapping itself, or the value of a name. -/
  | mapping (entries : List (Codes × Item)) (next : Option Item)

namespace Arguments

def next? : Arguments → Option (Item × Arguments)
  | list (x :: rest) => some (x, list rest)
  | mapping entries (some x) => some (x, mapping entries none)
  | _ => none

/-- The arguments for a directive with a name. -/
def named? (key : Codes) : Arguments → Option Arguments
  | mapping entries _ => (entries.find? (·.1 == key)).map fun (_, x) => mapping entries (some x)
  | list _ => none

def isUsedUp : Arguments → Bool
  | list items => items.isEmpty
  | mapping _ _ => true

end Arguments

/-- The whole number that a value counts as. -/
def whole? : Value → Option Int
  | .int n => some n
  | .bool b => some (if b then 1 else 0)
  | _ => none

namespace Arguments

/-- The number of an extent, which may not go beyond a limit. -/
def extent? (args : Arguments) (limit : Nat) : Option Extent → Option (Option Int × Arguments)
  | none => some (none, args)
  | some (.fixed n) => if n < limit then some (some n, args) else none
  | some .taken =>
    match args.next? with
    | some (.value v, args) =>
      (whole? v).bind fun n => if -limit ≤ n && n < limit then some (some n, args) else none
    | _ => none

end Arguments

namespace Pattern

def fill (left : Bool) (width : Nat) (s : Codes) : Codes :=
  let blanks := List.replicate (width - s.length) (Code.char ' ')
  if left then s ++ blanks else blanks ++ s

/-- A sign, a mark of the base and digits filled up to a width. -/
def fillNumber (d : Directive) (left : Bool) (width : Nat) (negative : Bool)
    (mark digits : List Char) : Codes :=
  let sign := if negative then ['-'] else if d.has '+' then ['+'] else if d.has ' ' then [' '] else []
  let head := sign ++ mark
  if d.has '0' && !left then
    .ofChars (head ++ List.replicate (width - head.length - digits.length) '0' ++ digits)
  else fill left width (.ofChars (head ++ digits))

/-- The whole number in a value, without the part behind a point. -/
def truncated? : Value → Option Int
  | .real (.finite negative m e) =>
    let (num, den) := Binary64.scaled 2 m e
    let n : Int := (num / den : Nat)
    some (if negative then -n else n)
  | v => whole? v

/-- A whole number that is not too long to be written with decimal digits. -/
def decimal? (v : Value) : Option Int := (truncated? v).filter fun n => !Text.isLong n

def real? : Value → Option Binary64
  | .real x => some x
  | v => (whole? v).bind fun n =>
    let x := Binary64.ofInt n
    if x.isFinite then some x else none

def atLeast (count : Nat) (digits : List Char) : List Char :=
  List.replicate (count - digits.length) '0' ++ digits

/-- A text with the characters above the basic ones escaped. -/
def basic (s : String) : Codes :=
  .ofChars (s.toList.flatMap fun c => if c.toNat < 0x80 then [c] else Text.numbered c)

def writeText (left : Bool) (width : Nat) (precision : Option Nat) (s : Codes) : Codes :=
  fill left width ((precision.map s.take).getD s)

/-- The base of a letter and the mark of the base. -/
def base (letter : Char) : Nat × List Char :=
  match letter.toLower with
  | 'o' => (8, ['0', 'o'])
  | 'x' => (16, ['0', 'x'])
  | _ => (10, [])

def raised (letter : Char) (s : List Char) : List Char :=
  if letter.isUpper then s.map Char.toUpper else s

def writeWhole (d : Directive) (left : Bool) (width : Nat) (precision : Option Nat) (n : Int) :
    Codes :=
  let letter := d.letter.shown
  let (radix, mark) := base letter
  let digits := atLeast (precision.getD 0) (Nat.toDigits radix n.natAbs)
  fillNumber d left width (n < 0) (raised letter (if d.has '#' then mark else []))
    (raised letter digits)

def isNegative : Binary64 → Bool
  | .finite negative _ _ => negative
  | .infinite negative => negative
  | .nan => false

def writeReal (d : Directive) (left : Bool) (width : Nat) (precision : Option Nat)
    (x : Binary64) : Codes :=
  let letter := d.letter.shown
  let mode : Notation := match letter.toLower with
    | 'f' => .fixed
    | 'e' => .power
    | _ => .general
  fillNumber d left width (isNegative x) []
    (raised letter (Rounded.magnitude mode (d.has '#') (precision.getD 6) x))

def character? : Value → Option Code
  | .text s =>
    match s.toList with
    | [c] => some c
    | _ => none
  | .brokenText codes =>
    match codes with
    | [c] => some c
    | _ => none
  | v => (whole? v).bind fun n => if n < 0 then none else Code.ofNat? n.toNat

def writeValue? (d : Directive) (left : Bool) (width : Nat) (precision : Option Nat) (v : Value) :
    Option Codes :=
  match d.letter with
  | 'c' => (character? v).map fun c => fill left width [c]
  | 'd' => (decimal? v).map (writeWhole d left width precision)
  | 'i' => (decimal? v).map (writeWhole d left width precision)
  | 'u' => (decimal? v).map (writeWhole d left width precision)
  | 'o' => (whole? v).map (writeWhole d left width precision)
  | 'x' => (whole? v).map (writeWhole d left width precision)
  | 'X' => (whole? v).map (writeWhole d left width precision)
  | letter =>
    if letter.is ("eEfFgG".toList.contains ·) then (real? v).map (writeReal d left width precision)
    else none

def write? (d : Directive) (left : Bool) (width : Nat) (precision : Option Nat) (x : Item) :
    Option Codes :=
  match d.letter, x with
  | 's', x => x.text?.map (writeText left width precision)
  | 'r', x => x.outline?.map fun s => writeText left width precision s
  | 'a', x => x.outline?.map fun s => writeText left width precision (basic s)
  | _, .value v => writeValue? d left width precision v
  | _, .thing _ => none

/-- Widths are below this bound. -/
def widthLimit : Nat := Nat.pow 2 63

/-- The numbers of digits behind a point are below this bound. -/
def precisionLimit : Nat := Nat.pow 2 31

/-- What a directive writes, and the arguments that are left. -/
def directive? (d : Directive) (args : Arguments) : Option (Codes × Arguments) := do
  let args ← match d.key with
    | some key => args.named? key
    | none => some args
  let (width, args) ← args.extent? widthLimit d.width
  let (precision, args) ← args.extent? precisionLimit d.precision
  let (x, args) ← args.next?
  let left := d.has '-' || width.any (· < 0)
  let text ← write? d left (width.getD 0).natAbs (precision.map Int.toNat) x
  return (text, args)

/-- The text of a pattern with arguments; all items of a list have to be used. -/
def apply (args : Arguments) (pattern : Codes) : Option Codes :=
  match pattern with
  | [] => if args.isUsedUp then some [] else none
  | '%' :: '%' :: rest => (apply args rest).map ('%' :: ·)
  | '%' :: tail =>
    match Directive.read tail with
    | none => none
    | some (d, rest) =>
      if rest.length ≤ tail.length then
        match directive? d args with
        | some (text, args) => (apply args rest).map (text ++ ·)
        | none => none
      else none
  | c :: rest => (apply args rest).map (c :: ·)
termination_by pattern.length

end Pattern

end PageCheck.Log
