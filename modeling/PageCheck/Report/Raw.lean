import PageCheck.Report.Save

/-!
# Reports with halves of characters

The texts of a result may be any codes. Their page is put together like that of other results, but a
page with a half in it cannot be written: its file is made and stays empty.
-/

namespace PageCheck

structure RawResult where
  line : Int
  url : Text.Codes
  expression : Text.Codes
  status : CheckStatus
  detail : Text.Codes
deriving DecidableEq, Repr

structure RawReport where
  results : List RawResult
deriving DecidableEq, Repr

namespace RawResult

/-- The result with a text in place of the codes. -/
def shown (r : RawResult) : CheckResult :=
  ⟨r.line, r.url.shown, r.expression.shown, r.status, r.detail.shown⟩

def fields (r : RawResult) : List (String × Text.Codes) :=
  [("line", .ofString (toString r.line)), ("url", r.url), ("expression", r.expression),
    ("status", .ofString r.status.name), ("detail", r.detail)]

end RawResult

def RawReport.shown (r : RawReport) : CheckReport := ⟨r.results.map RawResult.shown⟩

def CheckResult.raw (r : CheckResult) : RawResult :=
  ⟨r.line, .ofString r.url, .ofString r.expression, r.status, .ofString r.detail⟩

def CheckReport.raw (r : CheckReport) : RawReport := ⟨r.results.map CheckResult.raw⟩

namespace Markup

def escapeCode : Text.Code → Text.Codes
  | .char c => .ofChars (escapeChar c)
  | .half index => [.half index]

def escapeCodes (s : Text.Codes) : Text.Codes := s.flatMap escapeCode

end Markup

namespace Slot

def codesOf (entries : List (String × Text.Codes)) (name : String) : Text.Codes :=
  ((entries.find? (·.1 == name)).map (·.2)).getD []

def fillCodes (report : RawReport) (result : Option RawResult) : Slot → Text.Codes
  | field name => codesOf ((result.map RawResult.fields).getD []) name
  | other => .ofString (other.fill report.shown none)

end Slot

namespace Piece

def renderCodes (report : RawReport) (result : Option RawResult) : Piece → Text.Codes
  | text s => .ofString s
  | slot s => Markup.escapeCodes (s.fillCodes report result)

def renderAllCodes (report : RawReport) (result : Option RawResult) (pieces : List Piece) :
    Text.Codes :=
  pieces.flatMap (renderCodes report result)

end Piece

def Template.renderCodes (t : Template) (report : RawReport) : Text.Codes :=
  Piece.renderAllCodes report none t.before ++
    report.results.flatMap (fun result => Piece.renderAllCodes report (some result) t.row) ++
    Piece.renderAllCodes report none t.after

/-- The files after an attempt to write codes. The file is opened before it is known that they are no
text. -/
def Files.saveCodes (files : Files) (p : Path) (codes : Text.Codes) : Saved :=
  match codes.written with
  | .ok text => files.save p text
  | .error fault =>
    match files.writeText p "" with
    | .ok files => ⟨files, some (.halves fault)⟩
    | .error e => ⟨files, some (.file e)⟩

def RawReport.saveHtml (report : RawReport) (folder : Option Path) (p : Path) (files : Files) :
    Saved :=
  match files.makeFolders p.parent with
  | .error e => ⟨files, some (.file e)⟩
  | .ok files =>
    match files.template folder with
    | .error fault => ⟨files, some fault⟩
    | .ok template => files.saveCodes p (template.renderCodes report)

end PageCheck
