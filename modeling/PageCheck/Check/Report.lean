import PageCheck.Check.Result
import PageCheck.Json.Writer

/-!
# Reports

The results of a run in the order of the lines, with their counts.
-/

namespace PageCheck

structure CheckReport where
  results : List CheckResult
deriving DecidableEq, Repr

namespace CheckReport

def empty : CheckReport := ⟨[]⟩

def matched (r : CheckReport) : Nat := r.results.countP CheckResult.isMatched

def failed (r : CheckReport) : Nat := r.results.length - r.matched

def isOk (r : CheckReport) : Bool := r.failed == 0

def count (r : CheckReport) (status : CheckStatus) : Nat :=
  r.results.countP fun result => result.status == status

/-- The counts of all statuses by name, and of all results. -/
def summary (r : CheckReport) : List (String × Nat) :=
  CheckStatus.all.map (fun status => (status.name, r.count status)) ++
    [("total", r.results.length)]

end CheckReport

def CheckResult.toValue (r : CheckResult) : Value :=
  .map [(.text "line", .int r.line), (.text "url", .text r.url),
    (.text "expression", .text r.expression), (.text "status", .text r.status.name),
    (.text "detail", .text r.detail)]

namespace CheckReport

def summaryValue (r : CheckReport) : Value :=
  .map (r.summary.map fun (name, count) => (.text name, .int count))

def toValue (r : CheckReport) : Value :=
  .map [(.text "summary", r.summaryValue),
    (.text "results", .list (r.results.map CheckResult.toValue))]

def json (pretty : Bool) (r : CheckReport) : String :=
  if pretty then Json.pretty r.toValue else Json.compact r.toValue

end CheckReport

end PageCheck
