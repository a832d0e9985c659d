import PageCheck.Check.Report
import PageCheck.Fetch
import PageCheck.Html.Document.Build
import PageCheck.Predicate.Evaluation
import PageCheck.SpecFile

/-!
# Running checks

A check loads the page of a line and judges the predicate on it. Pages that cannot be fetched and
selectors that cannot be read make a result with an error; anything else stops the run, but only
after the checks of all lines have been carried out.
-/

namespace PageCheck

inductive CheckStop where
  | request (failure : Failure)
  | markup (fault : Html.Fault)
  | evaluation (error : EvaluationError)
  /-- The page never comes. -/
  | silence
deriving Repr

namespace CheckStop

def message : CheckStop → String
  | request failure => failure.text
  | markup fault => fault.message
  | evaluation error => error.message
  | silence => ""

def isSilence : CheckStop → Bool
  | silence => true
  | _ => false

end CheckStop

/-- The verdict on a page: whether the predicate holds, a fault to report, or a stop. -/
inductive Verdict where
  | decided (holds : Bool)
  | faulty (detail : String)
  | stopped (stop : CheckStop)

namespace Verdict

def ofEvaluation : Except EvaluationError Bool → Verdict
  | .ok holds => decided holds
  | .error e => if e.isInvalidSelector then faulty e.message else stopped (.evaluation e)

def ofContent (predicate : Predicate) (content : String) : Logged Verdict :=
  match Html.Document.read content with
  | .error fault => pure (stopped (.markup fault))
  | .ok document => do return ofEvaluation (← predicate.evaluateSite document)

def ofSpec (pages : Pages) (spec : Spec) : Logged Verdict := do
  match ← fetch pages spec.url with
  | .ok page => ofContent spec.predicate page.content
  | .error (.failed e) => return faulty e.message
  | .error (.escaped failure) => return stopped (.request failure)
  | .error .silence => return stopped .silence

end Verdict

namespace CheckResult

def ofStatus (line : Int) (spec : Spec) (status : CheckStatus) (detail : String) : CheckResult :=
  ⟨line, spec.url, spec.predicate.expression, status, detail⟩

def ofInvalid (line : SpecLine) (error : ParseError) : CheckResult :=
  ⟨line.number, String.ofList (Text.before '|' line.text.toList), line.text, .invalid,
    error.message⟩

end CheckResult

def checkSpec (pages : Pages) (spec : Spec) (line : Int) :
    Logged (Except CheckStop CheckResult) := do
  match ← Verdict.ofSpec pages spec with
  | .stopped stop => return .error stop
  | .faulty detail =>
    Logged.write .warning ("Check failed for " ++ spec.url ++ ": " ++ detail)
    return .ok (.ofStatus line spec .error detail)
  | .decided holds =>
    let result := CheckResult.ofStatus line spec (if holds then .matched else .notMatched) ""
    Logged.write .info result.describe
    return .ok result

namespace Run

def valid (lines : List SpecLine) : List (Int × Spec) :=
  lines.filterMap fun line =>
    match line.outcome with
    | .ok spec => some (line.number, spec)
    | .error _ => none

def checkAll (pages : Pages) :
    List (Int × Spec) → Logged (List (Except CheckStop CheckResult))
  | [] => pure []
  | (number, spec) :: rest => do
    let outcome ← checkSpec pages spec number
    let others ← checkAll pages rest
    return outcome :: others

def stop? : Except CheckStop CheckResult → Option CheckStop
  | .ok _ => none
  | .error stop => some stop

/-- What stops a run: the first check that fails with more than a result, or one that never ends. -/
def firstStop? (outcomes : List (Except CheckStop CheckResult)) : Option CheckStop :=
  let stops := outcomes.filterMap stop?
  (stops.find? (!·.isSilence)).or stops.head?

def results (outcomes : List (Except CheckStop CheckResult)) : List CheckResult :=
  outcomes.filterMap fun
    | .ok result => some result
    | .error _ => none

/-- The result shown for a line: of lines with one number the last one that can be read. -/
def resultOf? (checked : List CheckResult) (line : SpecLine) : Option CheckResult :=
  match line.outcome with
  | .ok _ => checked.reverse.find? fun r => r.line == line.number
  | .error e => some (.ofInvalid line e)

def report (checked : List CheckResult) (lines : List SpecLine) : CheckReport :=
  ⟨lines.filterMap (resultOf? checked)⟩

def opening (lines : List SpecLine) : String :=
  let count := (valid lines).length
  "Running " ++ toString count ++ " checks (" ++ toString (lines.length - count) ++
    " invalid lines)"

def closing (report : CheckReport) : String :=
  "Done: " ++ toString report.matched ++ " matched, " ++ toString report.failed ++ " failed"

def outcomes (pages : Pages) (lines : List SpecLine) :
    Logged (List (Except CheckStop CheckResult)) := do
  Logged.write .info (opening lines)
  checkAll pages (valid lines)

def finish (lines : List SpecLine) (outcomes : List (Except CheckStop CheckResult)) :
    Logged (Except CheckStop CheckReport) := do
  match firstStop? outcomes with
  | some stop => return .error stop
  | none =>
    let report := report (results outcomes) lines
    Logged.write .info (closing report)
    return .ok report

end Run

def runChecks (pages : Pages) (lines : List SpecLine) : Logged (Except CheckStop CheckReport) := do
  Run.finish lines (← Run.outcomes pages lines)

end PageCheck
