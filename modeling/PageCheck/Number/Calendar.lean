/-!
# Days and moments

The lengths of months and years, and the days and moments that they make. Years are counted as if the
present rules had always been in force.
-/

namespace PageCheck.Calendar

def isLeapYear (year : Nat) : Bool :=
  (year % 4 == 0 && year % 100 != 0) || year % 400 == 0

def daysIn (year month : Nat) : Nat :=
  if month = 2 then (if isLeapYear year then 29 else 28)
  else if [4, 6, 9, 11].contains month then 30 else 31

/-- The day of the week of the last day of a year, Sunday being 0. -/
def lastWeekday (year : Nat) : Nat := (year + year / 4 - year / 100 + year / 400) % 7

/-- The number of the last week, 53 also where the last days belong to the next year. -/
def lastWeek (year : Nat) : Nat :=
  let day := lastWeekday year
  if day = 0 || day = 6 || (day = 5 && !isLeapYear year) then 52 else 53

def yearLength (year : Nat) : Nat := if isLeapYear year then 366 else 365

/-- A number with so many digits at least. -/
def padded (width n : Nat) : String :=
  let digits := toString n
  "".pushn '0' (width - digits.length) ++ digits

structure Date where
  year : Nat
  month : Nat
  day : Nat
deriving DecidableEq, Repr

namespace Date

/-- The day so many days after a date in its month. -/
def inMonth (year : Nat) : Nat → Nat → Nat → Date
  | 0, month, days => ⟨year, month, days + 1⟩
  | months + 1, month, days =>
    if days < daysIn year month then ⟨year, month, days + 1⟩
    else inMonth year months (month + 1) (days - daysIn year month)

/-- The day so many days after the start of a year; `years` limits how far it is. -/
def after : Nat → Nat → Nat → Date
  | 0, year, days => inMonth year 11 1 days
  | years + 1, year, days =>
    if days < yearLength year then inMonth year 11 1 days
    else after years (year + 1) (days - yearLength year)

/-- The days up to a date, counted from the first year on. -/
def number (d : Date) : Nat :=
  let years := d.year - 1
  let months := (List.range (d.month - 1)).foldl (fun n month => n + daysIn d.year (month + 1)) 0
  365 * years + years / 4 - years / 100 + years / 400 + months + d.day

def text (d : Date) : String := padded 4 d.year ++ "-" ++ padded 2 d.month ++ "-" ++ padded 2 d.day

end Date

def secondsInDay : Nat := 86400

/-- A time of a day. If it is known how far it is ahead of universal time, that is in seconds. -/
structure Moment where
  date : Date
  hour : Nat
  minute : Nat
  second : Nat
  microsecond : Nat
  ahead : Option Int
deriving DecidableEq, Repr

namespace Moment

/-- The microseconds up to a moment, in universal time if that is known. -/
def instant (m : Moment) : Int :=
  let seconds : Int := (m.date.number * secondsInDay + m.hour * 3600 + m.minute * 60 + m.second : Nat)
  (seconds - m.ahead.getD 0) * 1000000 + m.microsecond

/-- Whether two moments are the same one, however far ahead of universal time they are told. -/
def isSame (a b : Moment) : Bool := a.ahead.isSome == b.ahead.isSome && a.instant == b.instant

/-- A distance from universal time in hours, minutes, and seconds if there are any. -/
def distance (seconds : Int) : String :=
  let n := seconds.natAbs
  (if seconds < 0 then "-" else "+") ++ padded 2 (n / 3600) ++ ":" ++ padded 2 (n / 60 % 60) ++
    (if n % 60 = 0 then "" else ":" ++ padded 2 (n % 60))

def text (m : Moment) : String :=
  m.date.text ++ " " ++ padded 2 m.hour ++ ":" ++ padded 2 m.minute ++ ":" ++ padded 2 m.second ++
    (if m.microsecond = 0 then "" else "." ++ padded 6 m.microsecond) ++
    (m.ahead.map distance).getD ""

end Moment

end PageCheck.Calendar
