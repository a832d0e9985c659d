import PageCheck.Number.Calendar
import PageCheck.Number.Literal
import PageCheck.Text.Base64
import PageCheck.Text.Case
import PageCheck.Text.Digit
import PageCheck.Text.Split
import PageCheck.Text.Utf8
import PageCheck.Value.Outline
import PageCheck.Yaml.Fault

/-!
# Kinds of scalars

A plain scalar shows by its form whether it is a number, a truth value, a date or nothing at all;
all others are texts. Numbers are also written to base two, eight, sixteen and sixty.
-/

namespace PageCheck.Yaml

open Text (Code Codes splitAt)

inductive Kind where
  | null
  | truth
  | whole
  | real
  | binary
  | time
  | text
  | list
  | mapping
  | set
  | orderedMapping
  | pairs
  | merge
  | standard
  | unknown
deriving DecidableEq, Repr

def Kind.ofTag (tag : String) : Kind :=
  match (["null", "bool", "int", "float", "binary", "timestamp", "str", "seq", "map", "set", "omap",
      "pairs", "merge", "value"].map ("tag:yaml.org,2002:" ++ ·)).findIdx? (· == tag) with
  | some n =>
    ([null, truth, whole, real, binary, time, text, list, mapping, set, orderedMapping, pairs,
      merge, standard][n]?).getD unknown
  | none => unknown

def trueWords : List String := ["yes", "Yes", "YES", "true", "True", "TRUE", "on", "On", "ON"]

def falseWords : List String := ["no", "No", "NO", "false", "False", "FALSE", "off", "Off", "OFF"]

def nullWords : List String := ["~", "null", "Null", "NULL", ""]

def isSign (c : Char) : Bool := c == '-' || c == '+'

/-- What follows a sign, if there is one. -/
def withoutSign {α : Type} (isSign : α → Bool) (s : List α) : List α :=
  match s with
  | c :: rest => if isSign c then rest else s
  | [] => []

/-- Digits of some base with underscores anywhere among them. -/
def areDigits (test : Char → Bool) (s : List Char) : Bool :=
  !s.isEmpty && s.all fun c => test c || c == '_'

def isOctal (c : Char) : Bool := '0' ≤ c && c ≤ '7'

/-- A digit with digits and underscores behind it. -/
def isDigitRun (s : List Char) : Bool :=
  (s.head?.any Char.isDigit) && s.all fun c => c.isDigit || c == '_'

/-- A part of a number to base sixty. -/
def isSixty (s : List Char) : Bool :=
  match s with
  | [c] => c.isDigit
  | [c, d] => '0' ≤ c && c ≤ '5' && d.isDigit
  | _ => false

def isWhole (s : List Char) : Bool :=
  match withoutSign isSign s with
  | '0' :: 'b' :: rest => areDigits (fun c => c == '0' || c == '1') rest
  | '0' :: 'x' :: rest => areDigits Text.isHexDigit rest
  | ['0'] => true
  | '0' :: rest => areDigits isOctal rest
  | body =>
    match splitAt ':' body with
    | first :: others => isDigitRun first && others.all isSixty
    | [] => false

/-- A power of ten with a sign, or nothing. -/
def isPower (s : List Char) : Bool :=
  match s with
  | [] => true
  | c :: sign :: digits =>
    (c == 'e' || c == 'E') && isSign sign && !digits.isEmpty && digits.all Char.isDigit
  | _ => false

def isDigitOrLow (c : Char) : Bool := c.isDigit || c == '_'

def isReal (s : List Char) : Bool :=
  let body := withoutSign isSign s
  match body.takeWhile (· != '.'), body.dropWhile (· != '.') with
  | [], '.' :: behind =>
    let name := String.ofList behind
    ["inf", "Inf", "INF"].contains name || (body == s && (["nan", "NaN", "NAN"].contains name ||
      (behind.head?.any Char.isDigit && isPower (behind.dropWhile isDigitOrLow))))
  | before, '.' :: behind =>
    (isDigitRun before && isPower (behind.dropWhile isDigitOrLow)) ||
      (match splitAt ':' before with
      | first :: second :: others =>
        isDigitRun first && (second :: others).all isSixty && behind.all isDigitOrLow
      | _ => false)
  | _, _ => false

structure TimeText where
  year : List Char
  month : List Char
  day : List Char
  time : Option (List Char × List Char × List Char)
  /-- The digits of the part of a second. -/
  fraction : List Char
  /-- The distance from universal time: sign, hours and minutes. -/
  zone : Option (Bool × List Char × List Char)

/-- At least and at most so many digits, and the text behind them. -/
def digits? (least most : Nat) (s : List Char) : Option (List Char × List Char) :=
  let found := (s.take most).takeWhile Char.isDigit
  if found.length < least then none else some (found, s.drop found.length)

def behind? (c : Char) (s : List Char) : Option (List Char) :=
  if s.head? = some c then some (s.drop 1) else none

def isSpaceOrTab (c : Char) : Bool := c == ' ' || c == '\t'

/-- The distance from universal time at the end of a time. -/
def readZone? (s : List Char) : Option (Option (Bool × List Char × List Char)) :=
  match s.dropWhile isSpaceOrTab with
  | [] => if s.isEmpty then some none else none
  | ['Z'] => some (some (false, [], []))
  | sign :: rest => do
    if !isSign sign then none
    let (hours, rest) ← digits? 1 2 rest
    if rest.isEmpty then return some (sign == '-', hours, [])
    let (minutes, rest) ← (behind? ':' rest).bind (digits? 2 2)
    if rest.isEmpty then return some (sign == '-', hours, minutes) else none

def readClock? (s : List Char) : Option (List Char) :=
  match s with
  | 'T' :: rest => some rest
  | 't' :: rest => some rest
  | _ => if s.head?.any isSpaceOrTab then some (s.dropWhile isSpaceOrTab) else none

def readTime? (s : List Char) : Option TimeText := do
  let (year, rest) ← digits? 4 4 s
  let (month, rest) ← (behind? '-' rest).bind (digits? 1 2)
  let (day, rest) ← (behind? '-' rest).bind (digits? 1 2)
  if rest.isEmpty then return ⟨year, month, day, none, [], none⟩
  let (hour, rest) ← (readClock? rest).bind (digits? 1 2)
  let (minute, rest) ← (behind? ':' rest).bind (digits? 2 2)
  let (second, rest) ← (behind? ':' rest).bind (digits? 2 2)
  let (fraction, rest) := match rest with
    | '.' :: more => more.span Char.isDigit
    | _ => ([], rest)
  let zone ← readZone? rest
  return ⟨year, month, day, some (hour, minute, second), fraction, zone⟩

/-- Whether a text has the form of a date or time; a date alone has all its digits. -/
def isTime (s : List Char) : Bool :=
  (readTime? s).any fun t => t.time.isSome || (t.month.length == 2 && t.day.length == 2)

/-- The kind that the form of a plain scalar shows. -/
def Kind.ofForm (s : List Char) : Kind :=
  let word := String.ofList s
  if trueWords.contains word || falseWords.contains word then truth
  else if isReal s then real
  else if isWhole s then whole
  else if word = "<<" then merge
  else if nullWords.contains word then null
  else if isTime s then time
  else if word = "=" then standard
  else text

def Kind.ofPlain (s : Codes) : Kind := (s.text?.map fun text => Kind.ofForm text.toList).getD .text

def number (digits : List Char) : Nat := Text.numeral 10 digits

/-- How much of a text a message shows at most. -/
def shownLimit : Nat := 200

def notWhole (base : Nat) (s : Codes) : Fault :=
  .value ("invalid literal for int() with base " ++ toString base ++ ": " ++
    String.ofList ((Text.quotedCodes s).take shownLimit))

/-- The decimal number of a text without underscores. -/
def decimalWhole (s : Codes) : Except Fault Int :=
  let chars := s.map Code.shown
  let digits := (withoutSign isSign (Literal.normal chars)).takeWhile Char.isDigit
  if Text.digitLimit < digits.length then
    .error (.value (Text.longNumberMessage (some digits.length)))
  else match Literal.whole? chars with
    | some n => .ok n
    | none => .error (notWhole 10 s)

def basedWhole (base : Nat) (s : Codes) : Except Fault Int :=
  match Literal.based? base (s.map Code.shown) with
  | some n => .ok n
  | none => .error (notWhole base s)

def wholeValue (text : Codes) : Except Fault Int :=
  let s := text.filter (· != .char '_')
  let body := withoutSign (Code.is isSign) s
  let signed (n : Int) : Int := if s.head? = some (.char '-') then -n else n
  match body with
  | [] => .error .emptyNumber
  | ['0'] => .ok 0
  | '0' :: 'b' :: rest => (basedWhole 2 rest).map signed
  | '0' :: 'x' :: rest => (basedWhole 16 rest).map signed
  | '0' :: _ => (basedWhole 8 body).map signed
  | _ =>
    match (splitAt (.char ':') body).mapM decimalWhole with
    | .error e => .error e
    | .ok parts => .ok (signed (parts.foldl (fun n part => n * 60 + part) 0))

def notReal (s : Codes) : Fault :=
  .value ("could not convert string to float: " ++ String.ofList (Text.quotedCodes s))

def realPart (s : Codes) : Except Fault Binary64 :=
  match Literal.decimal? (s.map Code.shown) with
  | some x => .ok x
  | none => .error (notReal s)

/-- The sum of parts to base sixty, the last one first. -/
def sumSixty (parts : List Binary64) : Binary64 :=
  (parts.foldl (fun (sum, base) part => (sum.add (part.scale base), base * 60))
    (Binary64.zero, 1)).1

def realValue (text : Codes) : Except Fault Binary64 :=
  let s := Text.lowerCodes (text.filter (· != .char '_'))
  let body := withoutSign (Code.is isSign) s
  let signed (x : Binary64) : Binary64 := if s.head? = some (.char '-') then x.opposite else x
  if s.isEmpty then .error .emptyNumber
  else if body = Codes.ofString ".inf" then .ok (signed (.infinite false))
  else if body = Codes.ofString ".nan" then .ok .nan
  else if body.contains (.char ':') then
    match (splitAt (.char ':') body).mapM realPart with
    | .error e => .error e
    | .ok parts => .ok (signed (sumSixty parts.reverse))
  else (realPart body).map signed

/-- How many seconds a zone is ahead of universal time. -/
def secondsAhead (zone : Bool × List Char × List Char) : Int :=
  let (negative, hours, minutes) := zone
  let seconds : Int := (number hours * 3600 + number minutes * 60 : Nat)
  if negative then -seconds else seconds

def timeFault? (t : TimeText) : Option String :=
  let zone := t.zone.bind fun zone =>
    let ahead := secondsAhead zone
    if Calendar.secondsInDay ≤ ahead.natAbs then
      some ("offset must be a timedelta strictly between -timedelta(hours=24) and " ++
        "timedelta(hours=24), not " ++ Value.outlineSpan ahead ++ ".")
    else none
  let date :=
    if number t.year = 0 then some "year 0 is out of range"
    else if number t.month = 0 || 12 < number t.month then some "month must be in 1..12"
    else if number t.day = 0 || Calendar.daysIn (number t.year) (number t.month) < number t.day then
      some "day is out of range for month"
    else none
  let clock := t.time.bind fun (hour, minute, second) =>
    if 23 < number hour then some "hour must be in 0..23"
    else if 59 < number minute then some "minute must be in 0..59"
    else if 59 < number second then some "second must be in 0..59"
    else none
  (zone.or date).or clock

/-- The microseconds of the digits behind a point. -/
def microseconds (fraction : List Char) : Nat :=
  let digits := fraction.take 6
  number (digits ++ List.replicate (6 - digits.length) '0')

def timeValue (s : List Char) : Except Fault Value :=
  match readTime? s with
  | none => .error .time
  | some t =>
    match timeFault? t with
    | some reason => .error (.value reason)
    | none =>
      let date : Calendar.Date := ⟨number t.year, number t.month, number t.day⟩
      .ok (match t.time with
        | none => .date date
        | some (hour, minute, second) =>
          .moment ⟨date, number hour, number minute, number second, microseconds t.fraction,
            t.zone.map secondsAhead⟩)

/-- Whether a text is one of some words, in whatever case. -/
def isAmong (words : List String) (s : Codes) : Bool :=
  words.any fun word => Text.lowerCodes s == Codes.ofString word.toLower

def scalarValue (kind : Kind) (s : Codes) : Except Fault Value :=
  match kind with
  | .null => .ok .null
  | .truth =>
    if isAmong trueWords s then .ok (.bool true)
    else if isAmong falseWords s then .ok (.bool false)
    else .error (.truth (Text.lowerCodes s))
  | .whole => (wholeValue s).map .int
  | .real => (realValue s).map .real
  | .binary =>
    match s.text? with
    | none => .error .malformed
    | some text =>
      if text.toList.all fun c => c.toNat < 0x80 then
        match Text.fromBase64? text.toList with
        | some bytes => .ok (.bytes bytes)
        | none => .error .malformed
      else .error .malformed
  | .time =>
    match s.text? with
    | none => .error .time
    | some text => timeValue text.toList
  | .text => .ok (.ofText s)
  | _ => .error .malformed

end PageCheck.Yaml
