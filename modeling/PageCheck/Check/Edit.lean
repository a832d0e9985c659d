import PageCheck.Check.Report

/-!
# Editing reports

A report can grow and shrink, and its results can be given another status or detail. Results are
counted from the first on, or with negative numbers from the last on. An edit is asked for with the
names of statuses, and there may be none of that name. A request that fails leaves the report as it is.
-/

namespace PageCheck

inductive Edit where
  | add (result : CheckResult)
  | remove (index : Int)
  | setStatus (index : Int) (status : CheckStatus)
  | setDetail (index : Int) (detail : String)
deriving DecidableEq, Repr

/-- An edit as it is asked for. -/
inductive EditRequest where
  | add (line : Int) (url expression status detail : String)
  | remove (index : Int)
  | setStatus (index : Int) (status : String)
  | setDetail (index : Int) (detail : String)
deriving DecidableEq, Repr

inductive EditFault where
  /-- No status has this name. -/
  | status (name : String)
  /-- There is nothing to remove. -/
  | nothing
  /-- No result to remove has this number. -/
  | removal
  /-- No result to change has this number. -/
  | index
deriving DecidableEq, Repr

def EditFault.message : EditFault → String
  | status name => CheckStatus.unknown name
  | nothing => "pop from empty list"
  | removal => "pop index out of range"
  | index => "list index out of range"

def statusNamed (name : String) : Except EditFault CheckStatus :=
  match CheckStatus.ofName? name with
  | some status => .ok status
  | none => .error (.status name)

/-- The edit that is asked for. -/
def EditRequest.edit : EditRequest → Except EditFault Edit
  | add line url expression status detail =>
    (statusNamed status).map fun status => .add ⟨line, url, expression, status, detail⟩
  | remove index => .ok (.remove index)
  | setStatus index status => (statusNamed status).map (.setStatus index)
  | setDetail index detail => .ok (.setDetail index detail)

/-- The place that a number means in a list of some length. -/
def placeOf? (length : Nat) (index : Int) : Option Nat :=
  if 0 ≤ index then (if index < length then some index.toNat else none)
  else if 0 ≤ index + length then some (index + length).toNat
  else none

namespace CheckReport

def change (r : CheckReport) (index : Int) (f : CheckResult → CheckResult) :
    Except EditFault CheckReport :=
  match placeOf? r.results.length index with
  | some place => .ok ⟨r.results.modify place f⟩
  | none => .error .index

def edit (r : CheckReport) : Edit → Except EditFault CheckReport
  | .add result => .ok ⟨r.results ++ [result]⟩
  | .remove index =>
    if r.results.isEmpty then .error .nothing
    else
      match placeOf? r.results.length index with
      | some place => .ok ⟨r.results.eraseIdx place⟩
      | none => .error .removal
  | .setStatus index status => r.change index fun result => { result with status := status }
  | .setDetail index detail => r.change index fun result => { result with detail := detail }

/-- Do what is asked for. The name of a status comes before the place of a result. -/
def request (r : CheckReport) (request : EditRequest) : Except EditFault CheckReport :=
  request.edit.bind r.edit

/-- The report after a request: the same one if it fails. -/
def after (r : CheckReport) (request : EditRequest) : CheckReport :=
  match r.request request with
  | .ok r => r
  | .error _ => r

/-- What becomes of the empty report. -/
def edited (requests : List EditRequest) : CheckReport := requests.foldl after empty

end CheckReport

end PageCheck
