import PageCheck.Files.Store
import PageCheck.Report.Page
import PageCheck.Report.Template.Reader

/-!
# Saving reports

A report is written to a file as JSON or as a page; the folders of the file are made first. The
page follows the template in a given folder if there is one.
-/

namespace PageCheck

inductive SaveFault where
  | file (error : FileError)
  /-- The folder has no template. -/
  | noTemplate (folder : String)
  /-- The template is not text. -/
  | notText (fault : Text.DecodeFault)
  /-- The page is not text. -/
  | halves (fault : Text.EncodeFault)
deriving DecidableEq, Repr

def Template.fileName : String := "report.html.j2"

namespace SaveFault

def message : SaveFault → String
  | file e => e.message
  | noTemplate folder =>
    Text.quoted Template.fileName ++ " not found in search path: " ++ Text.quoted folder
  | notText fault => fault.message
  | halves fault => fault.message

end SaveFault

/-- The files after an attempt to save, and why it failed if it did. -/
structure Saved where
  files : Files
  fault : Option SaveFault

namespace Files

/-- The files after an attempt to write a text into a folder that is there. -/
def save (files : Files) (p : Path) (text : String) : Saved :=
  match files.writeText p text with
  | .ok files => ⟨files, none⟩
  | .error e => ⟨files, some (.file e)⟩

/-- The template in a folder, or the usual one. -/
def template (files : Files) : Option Path → Except SaveFault Template
  | none => .ok .standard
  | some folder =>
    match files.bytes (folder.join [Template.fileName]) with
    | .error _ => .error (.noTemplate folder.text)
    | .ok octets => ((textOf octets).map Template.ofText).mapError .notText

end Files

namespace CheckReport

def saveJson (report : CheckReport) (pretty : Bool) (p : Path) (files : Files) : Saved :=
  match files.makeFolders p.parent with
  | .error e => ⟨files, some (.file e)⟩
  | .ok files => files.save p (report.json pretty)

def saveHtml (report : CheckReport) (folder : Option Path) (p : Path) (files : Files) : Saved :=
  match files.makeFolders p.parent with
  | .error e => ⟨files, some (.file e)⟩
  | .ok files =>
    match files.template folder with
    | .error fault => ⟨files, some fault⟩
    | .ok template => files.save p (template.render report)

end CheckReport

end PageCheck
