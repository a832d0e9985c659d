import PageCheck.Number.Binary64
import PageCheck.Number.Calendar

/-!
# Stamps of log lines

A record is stamped with where and when it was made. A time is a number of seconds and a part of a
second since the start of 1970. It is written with the date, the time of the day and thousandths of a
second.
-/

namespace PageCheck.Log

def stampOf (seconds nanoseconds : Nat) : String :=
  let days := seconds / Calendar.secondsInDay
  let date := Calendar.Date.after (days / 365) 1970 days
  let clock := seconds % Calendar.secondsInDay
  let moment : Calendar.Moment := ⟨date, clock / 3600, clock / 60 % 60, clock % 60, 0, none⟩
  moment.text ++ "," ++ Calendar.padded 3 (nanoseconds / 1000000)

/-- What surrounds a record: its time as it is written, the place in the program that it comes from, its
time in numbers, and what the program runs in. -/
structure Stamp where
  time : String
  path : String
  file : String
  module : String
  function : String
  line : Int
  created : Binary64
  milliseconds : Binary64
  age : Binary64
  thread : Int
  threadName : String
  process : Int
  processName : String
deriving DecidableEq, Repr

/-- The stamp of a program of which only the time is known. -/
def Stamp.ofTime (time : String) : Stamp :=
  ⟨time, "", "", "", "", 0, .zero, .zero, .zero, 0, "MainThread", 0, "MainProcess"⟩

end PageCheck.Log
