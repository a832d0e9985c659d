import PageCheck.Text.Quoted

/-!
# Results of checks

Every line of a specification file ends in one of four ways: its predicate holds of the page or
not, the line cannot be read, or the check itself fails.
-/

namespace PageCheck

inductive CheckStatus where
  | matched
  | notMatched
  | invalid
  | error
deriving DecidableEq, Repr

namespace CheckStatus

def all : List CheckStatus := [matched, notMatched, invalid, error]

def name : CheckStatus → String
  | matched => "matched"
  | notMatched => "not_matched"
  | invalid => "invalid"
  | error => "error"

theorem name_injective {a b : CheckStatus} (h : a.name = b.name) : a = b := by
  cases a <;> cases b <;> first | rfl | exact absurd h (by decide)

def ofName? (name : String) : Option CheckStatus := all.find? fun s => s.name == name

def unknown (name : String) : String := Text.quoted name ++ " is not a valid CheckStatus"

end CheckStatus

structure CheckResult where
  line : Int
  url : String
  expression : String
  status : CheckStatus
  detail : String
deriving DecidableEq, Repr

namespace CheckResult

def isMatched (r : CheckResult) : Bool := r.status == .matched

def describe (r : CheckResult) : String :=
  match r.status with
  | .matched => "Predicate " ++ r.expression ++ " matched for URL " ++ r.url
  | .notMatched => "Predicate " ++ r.expression ++ " did not match for URL " ++ r.url
  | .invalid => "Invalid spec " ++ r.detail
  | .error =>
    "Check failed at line " ++ toString r.line ++ " for URL " ++ r.url ++ ": " ++ r.detail

end CheckResult

end PageCheck
