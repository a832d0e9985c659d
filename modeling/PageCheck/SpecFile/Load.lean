import PageCheck.Files.Store
import PageCheck.SpecFile

/-!
# Loading specification files

The bytes of a file are read as text and its line ends unified before the text is read line by
line. The log says so if the file is missing.
-/

namespace PageCheck.SpecFile

def readBytes (limit : Int) (octets : List UInt8) : Logged (Except LoadError (List SpecLine)) :=
  match Files.textOf octets with
  | .error fault => pure (.error (.notText fault))
  | .ok text => read limit text

def absent (p : Path) : Logged (Except LoadError (List SpecLine)) :=
  let e := LoadError.missing p.text
  ⟨.error e, [⟨.error, e.message⟩]⟩

def load (files : Files) (limit : Int) (path : Path) :
    Logged (Except LoadError (List SpecLine)) :=
  match path.expand? files.home with
  | none => pure (.error .home)
  | some p =>
    match files.bytes p with
    | .error _ => absent p
    | .ok octets => readBytes limit octets

end PageCheck.SpecFile
