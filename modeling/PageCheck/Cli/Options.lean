import PageCheck.Cli.Reader
import PageCheck.Files.Store
import PageCheck.Log.Format
import PageCheck.Number.Literal

/-!
# The values of switches

The texts given to switches are read as paths, numbers and words. Paths of files and folders are
looked up as they are written.
-/

namespace PageCheck.Cli

inductive Taken where
  | path (path : Path)
  | number (x : Binary64)
  | text (s : String)
deriving Repr

inductive Stop where
  | version
  | help
  | fault (fault : UsageFault)
deriving DecidableEq, Repr

namespace Options

/-- What a text leads to. With a slash at its end it leads to folders only. -/
def entry? (files : Files) (text : String) : Option Entry :=
  if text.isEmpty then none
  else
    match files.entry? (.ofText text) with
    | some (.file octets) =>
      if text.endsWith "/" || text.endsWith "/." then none else some (.file octets)
    | found => found

def missing (what text : String) : String :=
  what ++ " " ++ Text.quoted text ++ " does not exist."

def takeFile (files : Files) (mustExist : Bool) (text : String) : Except String Taken :=
  match entry? files text with
  | none => if mustExist then .error (missing "File" text) else .ok (.path (.ofText text))
  | some .folder => .error ("File " ++ Text.quoted text ++ " is a directory.")
  | some (.file _) => .ok (.path (.ofText text))

def takeFolder (files : Files) (text : String) : Except String Taken :=
  match entry? files text with
  | none => .error (missing "Directory" text)
  | some .folder => .ok (.path (.ofText text))
  | some (.file _) => .error ("Directory " ++ Text.quoted text ++ " is a file.")

def take (files : Files) (kind : Kind) (text : String) : Except String Taken :=
  match kind with
  | .flag => .ok (.text text)
  | .text => .ok (.text text)
  | .file mustExist => takeFile files mustExist text
  | .folder => takeFolder files text
  | .number =>
    match Literal.decimal? text.toList with
    | some x => .ok (.number x)
    | none => .error (Text.quoted text ++ " is not a valid float.")
  | .choice among =>
    if among.contains text then .ok (.text text)
    else
      .error (Text.quoted text ++ " is not one of " ++
        ", ".intercalate (among.map Text.quoted) ++ ".")

/-- The text for a switch; that of the specification file may come from the surroundings. -/
def textFor? (fallback : Option String) (args : Arguments) (key : Key) : Option String :=
  let usual := if key = .spec then fallback.filter (!·.isEmpty) else none
  (args.value? key).or usual

def step (files : Files) (fallback : Option String) (args : Arguments) (s : Switch) :
    Except Stop (Option (Key × Taken)) :=
  if s.isUrgent then
    if args.has s.key then .error (if s.key = .version then .version else .help) else .ok none
  else if s.isFlag then .ok none
  else
    match textFor? fallback args s.key with
    | none => .ok none
    | some text =>
      match take files s.kind text with
      | .ok taken => .ok (some (s.key, taken))
      | .error reason => .error (.fault (.badValue s.names reason))

end Options

structure Options where
  taken : List (Key × Taken)
  pretty : Bool
  rest : List String

namespace Options

def read (files : Files) (fallback : Option String) (command : Command) (words : List String) :
    Except Stop Options := do
  let args ← (Reader.read command words).mapError .fault
  let taken ← (args.order command).mapM (step files fallback args)
  if command != .top && !args.rest.isEmpty then throw (.fault (.extra args.rest))
  return ⟨taken.filterMap id, args.has .pretty, args.rest⟩

def taken? (options : Options) (key : Key) : Option Taken :=
  (options.taken.find? (·.1 == key)).map (·.2)

def path? (options : Options) (key : Key) : Option Path :=
  match options.taken? key with
  | some (.path p) => some p
  | _ => none

def text (options : Options) (key : Key) (usual : String) : String :=
  match options.taken? key with
  | some (.text s) => s
  | _ => usual

def number? (options : Options) (key : Key) : Option Binary64 :=
  match options.taken? key with
  | some (.number x) => some x
  | _ => none

end Options

end PageCheck.Cli
