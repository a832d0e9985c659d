import PageCheck.Config
import PageCheck.Json.Reader
import PageCheck.Yaml.Reader

/-!
# Loading configurations

A configuration is loaded from a file whose suffix says how it is written. Without a file there is
a usual place to look at, and nothing there means nothing given.
-/

namespace PageCheck.Config

inductive Language where
  | yaml
  | json
deriving DecidableEq, Repr

namespace Language

def name : Language → String
  | yaml => "YAML"
  | json => "JSON"

def suffixes : Language → List String
  | yaml => [".yaml", ".yml"]
  | json => [".json"]

def ofSuffix? (suffix : String) : Option Language :=
  [yaml, json].find? fun language => language.suffixes.contains suffix

end Language

inductive LoadError where
  | build (error : BuildError)
  | missing (error : FileError)
  /-- The home folder that a path starts from is not known. -/
  | home
  /-- The suffix of a file says nothing. -/
  | suffix (suffix : String)
  | notText (fault : Text.DecodeFault)
  | yaml (path : String) (fault : Yaml.Fault)
  | json (path text : String) (stop : Json.Stop)
  /-- The value of a file is no mapping. -/
  | topLevel (language : Language) (kind : String)

namespace LoadError

def wrong (language : Language) (path reason : String) : String :=
  "Неправильный " ++ language.name ++ " в " ++ path ++ ": " ++ reason

def message : LoadError → String
  | build e => e.message
  | missing e => e.message
  | home => "Could not determine home directory."
  | suffix s => "Неподдерживаемый формат конфига: " ++ s
  | notText fault => fault.message
  | yaml path fault =>
    if fault = .malformed then wrong .yaml path "malformed document" else fault.message
  | json path text stop =>
    let reason := stop.message text.toList
    if stop.fault.isGrammatical then wrong .json path reason else reason
  | topLevel language kind =>
    "Верхний уровень " ++ language.name ++ " должен быть mapping, получено " ++ kind

end LoadError

def value (language : Language) (path text : String) : Except LoadError Value :=
  match language with
  | .yaml => (Yaml.read text).mapError (.yaml path)
  | .json => (Json.read text.toList).mapError (.json path text)

/-- The members of a value; a vacant one has none. -/
def members (language : Language) : Value → Except LoadError Members
  | .map entries => .ok entries
  | v => if v.isVacant then .ok [] else .error (.topLevel language v.kindName)

/-- Where a configuration is looked for if no file is given. -/
def usualPlace : Path := .ofText "configs/default.yaml"

/-- The file to load from; none if there is nothing at the usual place. -/
def source (files : Files) : Option Path → Except LoadError (Option Path)
  | none => .ok (if files.isFile usualPlace then some usualPlace else none)
  | some p =>
    match p.expand? files.home with
    | none => .error .home
    | some p =>
      let p := p.resolve files.current
      if files.isFile p then .ok (some p) else .error (.missing ⟨.missing, p.text⟩)

def loadFile (files : Files) (p : Path) : Except LoadError Config := do
  let suffix := String.ofList (Text.lower p.suffix.toList)
  let language ← match Language.ofSuffix? suffix with
    | some language => .ok language
    | none => .error (.suffix suffix)
  let octets ← (files.bytes p).mapError fun fault => .missing ⟨fault, p.text⟩
  let text ← (Files.textOf octets).mapError .notText
  let entries ← members language (← value language p.text text)
  (build files entries).mapError .build

def load (files : Files) (path : Option Path) : Except LoadError Config := do
  match ← source files path with
  | none => .ok standard
  | some p => loadFile files p

end PageCheck.Config
