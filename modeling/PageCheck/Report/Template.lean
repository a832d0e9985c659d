import PageCheck.Check.Report
import PageCheck.Report.Escape

/-!
# Templates of report pages

A template is fixed text with slots, in three parts: what comes before the results, the row that is
written once for every result, and what comes after them. Slots are filled with escaped texts.
-/

namespace PageCheck

inductive Slot where
  | count (name : String)
  /-- One of two words, for a report without failures and for one with some. -/
  | verdict (good bad : String)
  | isOk
  /-- A field of the result whose row it is. -/
  | field (name : String)
  /-- A name that means nothing; nothing is put there. -/
  | blank
deriving DecidableEq, Repr

inductive Piece where
  | text (s : String)
  | slot (slot : Slot)
deriving DecidableEq, Repr

structure Template where
  before : List Piece
  row : List Piece
  after : List Piece
deriving DecidableEq, Repr

namespace CheckResult

def shown (r : CheckResult) : List (String × String) :=
  [("line", toString r.line), ("url", r.url), ("expression", r.expression),
    ("status", r.status.name), ("detail", r.detail)]

end CheckResult

namespace Slot

def entryOf (entries : List (String × String)) (name : String) : String :=
  ((entries.find? (·.1 == name)).map (·.2)).getD ""

def fill (report : CheckReport) (result : Option CheckResult) : Slot → String
  | count name => entryOf (report.summary.map fun (key, n) => (key, toString n)) name
  | verdict good bad => if report.isOk then good else bad
  | isOk => if report.isOk then "True" else "False"
  | field name => entryOf ((result.map CheckResult.shown).getD []) name
  | blank => ""

end Slot

namespace Piece

def render (report : CheckReport) (result : Option CheckResult) : Piece → String
  | text s => s
  | slot s => Markup.escape (s.fill report result)

def renderAll (report : CheckReport) (result : Option CheckResult) (pieces : List Piece) :
    String :=
  String.join (pieces.map (render report result))

end Piece

namespace Template

def renderRow (t : Template) (report : CheckReport) (result : CheckResult) : String :=
  Piece.renderAll report (some result) t.row

def render (t : Template) (report : CheckReport) : String :=
  Piece.renderAll report none t.before ++ String.join (report.results.map (t.renderRow report)) ++
    Piece.renderAll report none t.after

end Template

end PageCheck
