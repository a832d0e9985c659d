import PageCheck.Log.Format
import PageCheck.Log.Rotation

/-!
# The logger

A logger has a level and handlers, each with a format: for the screen, or for a file. Configuring it
goes step by step, and what has been done before a step fails stays done: the level comes first,
then the old handlers go, then the new ones come.
-/

namespace PageCheck.Log

open Text (Code Codes)

inductive Target where
  | screen
  | file (path : Path)
deriving DecidableEq, Repr

structure Handler where
  target : Target
  format : Format
deriving DecidableEq, Repr

/-- What has been written to the screen and to files. A strict screen takes whole characters only. -/
structure Output where
  screen : Codes
  files : Files
  strict : Bool

structure Logger where
  level : Level
  handlers : List Handler
  /-- Whether records go on to other logs. -/
  propagates : Bool
deriving DecidableEq, Repr

structure Settings where
  level : Value
  file : Option Path
  format : Codes
  /-- Whether the handlers there are go. -/
  replace : Bool

inductive Fault where
  | levelName (name : Codes)
  /-- A level that is no number and no name. -/
  | levelKind (outline : String)
  /-- A level that is neither, and too long to be shown. -/
  | longLevel
  | format (text : Codes)
  | file (error : FileError)
deriving DecidableEq, Repr

def Fault.message : Fault → String
  | levelName name => "Unknown level: " ++ String.ofList (Text.quotedCodes name)
  | levelKind outline => "Level not an integer or a valid string: " ++ outline
  | longLevel => Text.longNumberMessage none
  | format text => Format.invalid text
  | file e => e.message

namespace Settings

def standard : Settings := ⟨.text "INFO", none, Format.usual, true⟩

end Settings

def readLevel : Value → Except Fault Level
  | .int n => .ok n
  | .bool b => .ok (if b then 1 else 0)
  | .text name =>
    match Level.ofName? name with
    | some level => .ok level
    | none => .error (.levelName name)
  | .brokenText name => .error (.levelName name)
  | v => .error (if v.hasLong then .longLevel else .levelKind v.outline)

/-- A logger with its files after an attempt to configure it, and why that failed if it did. -/
structure Configured where
  logger : Logger
  files : Files
  fault : Option Fault

namespace Logger

/-- The logger before it is first configured. -/
def blank : Logger := ⟨0, [], false⟩

def add (logger : Logger) (target : Target) (format : Format) : Logger :=
  { logger with handlers := logger.handlers ++ [⟨target, format⟩] }

/-- Add the handler for a file, which is opened at once. -/
def addFile (logger : Logger) (files : Files) (format : Format) (p : Path) : Configured :=
  let p := p.resolve files.current
  match files.openToAppend p with
  | .error e => ⟨logger, files, some (.file e)⟩
  | .ok files => ⟨{ logger.add (.file p) format with propagates := false }, files, none⟩

def configure (logger : Logger) (files : Files) (settings : Settings) : Configured :=
  match readLevel settings.level with
  | .error fault => ⟨logger, files, some fault⟩
  | .ok level =>
    let kept := if settings.replace then [] else logger.handlers
    let logger := { logger with level := level, handlers := kept }
    match Format.read? settings.format with
    | none => ⟨logger, files, some (.format settings.format)⟩
    | some format =>
      let logger := logger.add .screen format
      match settings.file with
      | none => ⟨{ logger with propagates := false }, files, none⟩
      | some p => logger.addFile files format p

def initial : Logger := ⟨Level.info, [⟨.screen, .standard⟩], false⟩

/-- The level that records need. A logger without a level takes that of all logs. -/
def threshold (logger : Logger) : Level :=
  if logger.level = 0 then Level.warning else logger.level

def isEnabled (logger : Logger) (level : Level) : Bool :=
  0 < level && logger.threshold ≤ level

end Logger

def Output.show (output : Output) (line : Codes) : Output :=
  if output.strict && line.any Code.isHalf then output
  else { output with screen := output.screen ++ line }

/-- Write a line to a screen or a file. -/
def Output.add (output : Output) (line : Codes) : Target → Output
  | .screen => output.show line
  | .file p => { output with files := output.files.addLine p line }

/-- Write a record the way a handler does. A format that does not fit writes nothing. -/
def Handler.write (stamp : Stamp) (e : Event) (output : Output) (h : Handler) : Output :=
  match h.format.line? stamp e with
  | none => output
  | some line => output.add (line ++ "\n") h.target

namespace Logger

def log (logger : Logger) (stamp : Stamp) (output : Output) (e : Event) : Output :=
  if logger.isEnabled e.level then logger.handlers.foldl (Handler.write stamp e) output
  else output

def logAll (logger : Logger) (stamp : Stamp) (output : Output) (records : List Record) : Output :=
  records.foldl (fun output r => logger.log stamp output r.event) output

end Logger

end PageCheck.Log
