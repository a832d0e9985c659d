import PageCheck.Html.Place
import PageCheck.Number.Binary64
import PageCheck.Number.Calendar
import PageCheck.Text.Digit

/-!
# Ranges of input fields

The value of a date, a time or a number field is compared with its bounds. Bounds and values that
are not written in the form of the field count as missing.
-/

namespace PageCheck.Selector

open Html (Place)

inductive FieldKind where
  | date
  | month
  | week
  | time
  | moment
  | number
deriving DecidableEq, Repr

def FieldKind.ofName? (name : String) : Option FieldKind :=
  match name with
  | "date" => some .date
  | "month" => some .month
  | "week" => some .week
  | "time" => some .time
  | "datetime-local" => some .moment
  | "number" => some .number
  | "range" => some .number
  | _ => none

inductive FieldValue where
  /-- Years, months and so on, the largest unit first. -/
  | units (units : List Nat)
  | number (n : Binary64)

def unitsBefore : List Nat → List Nat → Bool
  | a :: as, b :: bs => a < b || (a == b && unitsBefore as bs)
  | _, _ => false

def FieldValue.before : FieldValue → FieldValue → Bool
  | .units a, .units b => unitsBefore a b
  | .number a, .number b => a.below b
  | _, _ => false

/-- A run of digits: a least number of them, or exactly so many. -/
def takeDigits? (least : Nat) (exact : Bool) (s : List Char) : Option (Nat × List Char) :=
  let digits := s.takeWhile Char.isDigit
  let digits := if exact then digits.take least else digits
  if digits.length < least then none
  else some (Text.numeral 10 digits, s.drop digits.length)

def behind? (part s : List Char) : Option (List Char) :=
  if part.isPrefixOf s then some (s.drop part.length) else none

def pair? (separator : List Char) (s : List Char) : Option (Nat × List Char) :=
  (behind? separator s).bind (takeDigits? 2 true)

/-- The end of a value; one line feed may follow it. -/
def atEnd (s : List Char) : Bool := s.isEmpty || s == ['\n']

def isDay (year month day : Nat) : Bool :=
  1 ≤ year && 1 ≤ month && month ≤ 12 && 1 ≤ day && day ≤ Calendar.daysIn year month

def isTime (hour minute : Nat) : Bool := hour ≤ 23 && minute ≤ 59

def readDate? (s : List Char) : Option (List Nat × List Char) := do
  let (year, rest) ← takeDigits? 4 false s
  let (month, rest) ← pair? ['-'] rest
  let (day, rest) ← pair? ['-'] rest
  if isDay year month day then some ([year, month, day], rest) else none

def readTime? (s : List Char) : Option (List Nat × List Char) := do
  let (hour, rest) ← takeDigits? 2 true s
  let (minute, rest) ← pair? [':'] rest
  if isTime hour minute then some ([hour, minute], rest) else none

/-- A number: digits, a point with digits behind it, or both. -/
def readNumber? (s : List Char) : Option (Binary64 × List Char) :=
  let (negative, body) := match s with
    | '-' :: rest => (true, rest)
    | _ => (false, s)
  let whole := body.takeWhile Char.isDigit
  let rest := body.dropWhile Char.isDigit
  let (fraction, rest) := match rest with
    | '.' :: more =>
      if (more.takeWhile Char.isDigit).isEmpty then ([], rest)
      else (more.takeWhile Char.isDigit, more.dropWhile Char.isDigit)
    | _ => ([], rest)
  if whole.isEmpty && fraction.isEmpty then none
  else
    let digits := Text.numeral 10 (whole ++ fraction)
    some (Binary64.ofDecimal negative digits (-(fraction.length : Int)), rest)

def readUnits? (kind : FieldKind) (s : List Char) : Option (List Nat × List Char) :=
  match kind with
  | .date => readDate? s
  | .time => readTime? s
  | .moment => do
    let (date, rest) ← readDate? s
    let (time, rest) ← (behind? ['T'] rest).bind readTime?
    some (date ++ time, rest)
  | .month => do
    let (year, rest) ← takeDigits? 4 false s
    let (month, rest) ← pair? ['-'] rest
    if isDay year month 1 then some ([year, month], rest) else none
  | .week => do
    let (year, rest) ← takeDigits? 4 false s
    let (week, rest) ← pair? ['-', 'W'] rest
    if 1 ≤ year && 1 ≤ week && week ≤ Calendar.lastWeek year then some ([year, week], rest) else none
  | .number => none

def FieldValue.read? (kind : FieldKind) (text : String) : Option FieldValue :=
  let found : Option (FieldValue × List Char) :=
    if kind = .number then (readNumber? text.toList).map fun (n, rest) => (.number n, rest)
    else (readUnits? kind text.toList).map fun (parts, rest) => (.units parts, rest)
  found.bind fun (value, rest) => if atEnd rest then some value else none

/-- Whether the value of a field lies outside its bounds, if there is a bound. Times go round: with
the lower bound behind the upper one only the times between them are outside. -/
def outOfRange? (p : Place) : Option Bool :=
  match FieldKind.ofName? ((p.attribute? "type").getD "").toLower with
  | none => none
  | some kind =>
    let read (key : String) : Option FieldValue := (p.attribute? key).bind (FieldValue.read? kind)
    match read "min", read "max", read "value" with
    | none, none, _ => none
    | _, _, none => some false
    | low, high, some value =>
      let below := low.any fun m => value.before m
      let above := high.any fun m => m.before value
      let reversed := low.any fun m => high.any fun n => n.before m
      some (if kind = .time && reversed then below && above else below || above)

end PageCheck.Selector
