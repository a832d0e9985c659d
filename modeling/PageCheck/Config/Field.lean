import PageCheck.Files.Path
import PageCheck.Number.Literal
import PageCheck.Text.Utf8
import PageCheck.Value

/-!
# Fields of configurations

Each field takes the values of its own kind and those that can be read as such: texts that write
numbers, truth values, bytes of a text. A value that is rejected has one fault.
-/

namespace PageCheck.Config

inductive Fault where
  | notPath
  | notNumber
  | numberText
  | notPositive
  | notText
  | shortText
  | brokenText
  | notWhole
  | wholeText
  | wholeSize
  | fraction
  | notFinite
  | belowOne
  | unknownKey
deriving DecidableEq, Repr

namespace Fault

def describe : Fault → String × String
  | notPath => ("path_type", "Input is not a valid path for <class 'pathlib.Path'>")
  | notNumber => ("float_type", "Input should be a valid number")
  | numberText =>
    ("float_parsing", "Input should be a valid number, unable to parse string as a number")
  | notPositive => ("greater_than", "Input should be greater than 0")
  | notText => ("string_type", "Input should be a valid string")
  | shortText => ("string_too_short", "String should have at least 1 character")
  | brokenText =>
    ("string_unicode",
      "Input should be a valid string, unable to parse raw data as a unicode string")
  | notWhole => ("int_type", "Input should be a valid integer")
  | wholeText =>
    ("int_parsing", "Input should be a valid integer, unable to parse string as an integer")
  | wholeSize =>
    ("int_parsing_size",
      "Unable to parse input string as an integer, exceeded maximum size")
  | fraction =>
    ("int_from_float", "Input should be a valid integer, got a number with a fractional part")
  | notFinite => ("finite_number", "Input should be a finite number")
  | belowOne => ("greater_than_equal", "Input should be greater than or equal to 1")
  | unknownKey => ("extra_forbidden", "Extra inputs are not permitted")

def name (f : Fault) : String := f.describe.1

def message (f : Fault) : String := f.describe.2

end Fault

def isSpace (c : Char) : Bool := Text.isBlank c && !(0x1C ≤ c.toNat && c.toNat ≤ 0x1F)

def trim (s : List Char) : List Char := ((s.dropWhile isSpace).reverse.dropWhile isSpace).reverse

def hasDoubleMark : List Char → Bool
  | '_' :: '_' :: _ => true
  | _ :: rest => hasDoubleMark rest
  | [] => false

/-- The text without its underscores; they may not stand at an end or side by side. -/
def withoutMarks? (s : List Char) : Option (List Char) :=
  if s.head? = some '_' || s.getLast? = some '_' || hasDoubleMark s then none
  else some (s.filter (· != '_'))

/-- The number that the text of a field writes. Blanks around it and underscores in it exclude each
other. -/
def number? (s : List Char) : Option Binary64 :=
  if s.contains '_' then (withoutMarks? s).bind Literal.plainDecimal?
  else Literal.plainDecimal? (trim s)

def withoutFraction (s : List Char) : List Char :=
  let behind := (s.dropWhile (· != '.')).drop 1
  if !behind.isEmpty && behind.all (· == '0') then s.takeWhile (· != '.') else s

/-- The text without the zeros in front and the underscores among them, up to a digit that is none,
a point, or a sign; `last` is the character before the text. -/
def dropZeros (last : Char) : List Char → Option (List Char)
  | [] => some [last]
  | c :: rest =>
    if c = '0' || (c = '_' && last = '0') then dropZeros c rest
    else if c = '.' then some (last :: c :: rest)
    else if c.isDigit || c = '-' then some (c :: rest)
    else none

def withoutZeros? (s : List Char) : Option (List Char) :=
  match s with
  | '0' :: rest => dropZeros '0' rest
  | c :: _ => if c.isDigit || c = '-' then some s else none
  | [] => none

/-- The plain form of a whole number: neither blanks around it nor a plus sign, no zeros in front or
behind a point, and no underscores. -/
def plainForm? (s : List Char) : Option (List Char) :=
  let s := trim s
  (withoutZeros? (if s.head? = some '+' then s.drop 1 else s)).map fun s =>
    (withoutMarks? (withoutFraction s)).getD (withoutFraction s)

def plainWhole (s : List Char) : Except Fault Int :=
  let negative := s.head? = some '-'
  let digits := if negative then s.drop 1 else s
  if digits.isEmpty || !digits.all Char.isDigit || (digits.head? = some '0' && 1 < digits.length) then
    .error .wholeText
  else if Text.digitLimit < digits.length then .error .wholeSize
  else
    let n := Text.numeral 10 digits
    .ok (if negative then -n else n)

def whole (s : List Char) : Except Fault Int :=
  ((plainForm? s).map plainWhole).getD (.error .wholeText)

def textOf (octets : List UInt8) (fault : Fault) : Except Fault String :=
  (Text.decode octets).mapError fun _ => fault

def readNumber : Value → Except Fault Binary64
  | .bool b => .ok (Binary64.ofInt (if b then 1 else 0))
  | .int n =>
    let x := Binary64.ofInt n
    if x.isFinite then .ok x else .error .notNumber
  | .real x => .ok x
  | .text s => ((number? s.toList).map Except.ok).getD (.error .numberText)
  | .bytes octets => do
    let s ← textOf octets .numberText
    ((number? s.toList).map Except.ok).getD (.error .numberText)
  | .brokenText _ => .error .brokenText
  | _ => .error .notNumber

/-- A positive number; infinity is one. -/
def readTimeout (v : Value) : Except Fault Binary64 := do
  let x ← readNumber v
  if x.isPositive then .ok x else .error .notPositive

def readText (v : Value) : Except Fault String := do
  let s ← match v with
    | .text s => .ok s
    | .bytes octets => textOf octets .brokenText
    | .brokenText _ => .error .brokenText
    | _ => .error .notText
  if s.isEmpty then .error .shortText else .ok s

/-- Numbers with a point are read as whole numbers below this bound. -/
def realBound : Nat := Nat.pow 2 63

def wholeOfReal (x : Binary64) : Except Fault Int :=
  match x with
  | .finite .. =>
    match x.toInt? with
    | some n => if n.natAbs < realBound then .ok n else .error .wholeSize
    | none => .error .fraction
  | _ => .error .notFinite

def readWhole : Value → Except Fault Int
  | .bool b => .ok (if b then 1 else 0)
  | .int n => .ok n
  | .real x => wholeOfReal x
  | .text s => whole s.toList
  | .bytes octets => do whole (← textOf octets .wholeText).toList
  | .brokenText _ => .error .brokenText
  | _ => .error .notWhole

/-- A whole number from one on. -/
def readDepth (v : Value) : Except Fault Int := do
  let n ← readWhole v
  if 1 ≤ n then .ok n else .error .belowOne

/-- What is given for a file: a path, or codes with halves among them, by which no file is named. -/
inductive Given where
  | path (p : Path)
  | broken (codes : Text.Codes)
deriving DecidableEq, Repr

def Given.path? : Given → Option Path
  | path p => some p
  | broken _ => none

def Given.codes : Given → Text.Codes
  | path p => p.text
  | broken codes => Path.shortest codes

def readPath : Value → Except Fault (Option Given)
  | .null => .ok none
  | .text s => .ok (some (.path (.ofText s)))
  | .brokenText codes => .ok (some (.broken codes))
  | _ => .error .notPath

end PageCheck.Config
