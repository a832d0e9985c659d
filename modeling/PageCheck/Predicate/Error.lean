import PageCheck.Text.Digit

/-!
# Errors of the specification language

An error keeps what was wrong, the text it was found in and, for a line of a file, the number of
that line. The message is derived from these. There is no error without its message, so nothing but
a complaint about the number is left of an error with a number that is too long to be written.
-/

namespace PageCheck

inductive ParseFault where
  | call
  | elementPredicate
  | sitePredicate
  | spec
  /-- More negations inside each other than the limit allows. -/
  | nesting (limit : Int)
  /-- A fault described from outside; the text is not part of its wording. -/
  | stated (reason : String)
deriving DecidableEq, Repr

structure ParseError where
  fault : ParseFault
  text : String
  line : Option Int
deriving DecidableEq, Repr

namespace ParseFault

def describe (text : String) : ParseFault → String
  | call => "Could not parse function call from: " ++ text
  | elementPredicate => "Could not parse element predicate from: " ++ text
  | sitePredicate => "Could not parse site predicate from: " ++ text
  | spec => "Could not parse site spec from: " ++ text
  | nesting limit =>
    "Predicate nesting deeper than " ++ toString limit ++ " levels: " ++ text
  | stated reason => reason

/-- The number in the wording. -/
def number? : ParseFault → Option Int
  | nesting limit => some limit
  | _ => none

end ParseFault

namespace ParseError

/-- The wording with the number of the line before it, if there is one. -/
def message (e : ParseError) : String :=
  match e.line with
  | some n => "line " ++ toString n ++ ": " ++ e.fault.describe e.text
  | none => e.fault.describe e.text

/-- Whether all numbers in the message can be written. -/
def isWritable (e : ParseError) : Bool :=
  !e.fault.number?.any Text.isLong && !e.line.any Text.isLong

end ParseError

/-- What reading ends with where it fails. -/
inductive ParseStop where
  | error (e : ParseError)
  | longNumber
deriving DecidableEq, Repr

def ParseError.raise (e : ParseError) : ParseStop := if e.isWritable then .error e else .longNumber

end PageCheck
