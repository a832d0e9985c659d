import PageCheck.Cli.Options
import PageCheck.Cli.Terminal
import PageCheck.Config.Load
import PageCheck.Engine
import PageCheck.Report.Save

/-!
# Running commands

The program reads its own switches first, sets the logger up and loads the configuration. Then the
command reads its switches and does its work.
-/

namespace PageCheck.Cli

structure World where
  files : Files
  pages : Pages
  /-- The specification file that is named outside of the command line. -/
  specFile : Option String
  stamp : Log.Stamp

open Cli.Action

def stopAt {α : Type} (command : Command) : Stop → Action α
  | .version => do
    show_ versionText
    throw (.code 0)
  | .help => do
    show_ command.help
    throw (.code 0)
  | .fault fault => do
    complain (fault.render command)
    throw (.code 2)

def options (fallback : Option String) (command : Command) (words : List String) :
    Action Options := do
  match Options.read (← files) fallback command words with
  | .ok o => return o
  | .error stop => stopAt command stop

def setUpLogger (o : Options) : Action Unit := do
  let t ← get
  let done := t.logger.configure t.output.files
    ⟨.text (o.text .logLevel "INFO"), o.path? .logFile, o.text .logFormat Log.Format.usual,
      true⟩
  set { t with logger := done.logger, output := { t.output with files := done.files } }
  match done.fault with
  | some fault => throw (.escape (.log fault))
  | none => return ()

def loadConfig (o : Options) : Action Config := do
  orFail (fun e => "Ошибка загрузки конфигурации: " ++ e.message)
    (Config.load (← files) (o.path? .config))

def noSpecFile : String := "SPECFILE environment variable is not defined and no --spec given"

/-- Load the lines of the given specification file, or of that of the configuration. -/
def loadLines (config : Config) (o : Options) : Action (List SpecLine) := do
  match Engine.source? config (o.path? .spec) with
  | none => fail noSpecFile
  | some p =>
    match ← logged (SpecFile.load (← files) config.depth p) with
    | .ok lines => return lines
    | .error .home => throw (.escape (.home SpecFile.LoadError.home.message))
    | .error .longNumber => throw (.escape (.value SpecFile.LoadError.longNumber.message))
    | .error e => fail ("Ошибка чтения файла спецификаций: " ++ e.message)

def runFault (seconds : String) : RunStop → String
  | .overtime => "Проверки не завершены за " ++ seconds ++ " секунд"
  | .stopped stop => "Ошибка при проверке: " ++ stop.message

def keep (what : String) (saved : Saved) : Action Unit := do
  setFiles saved.files
  match saved.fault with
  | some fault => fail ("Ошибка при сохранении " ++ what ++ ": " ++ fault.message)
  | none => return ()

def saveJson (report : CheckReport) (o : Options) : Action Unit := do
  match o.path? .json with
  | none => return ()
  | some p =>
    keep "JSON" (report.saveJson o.pretty p (← files))
    echo ("JSON report: " ++ p.text)

def saveHtml (report : CheckReport) (o : Options) : Action Unit := do
  match o.path? .html with
  | none => return ()
  | some p =>
    keep "HTML" (report.saveHtml (o.path? .template) p (← files))
    echo ("HTML report: " ++ p.text)

def echoAll (lines : List String) : Action Unit :=
  show_ (String.join (lines.map fun line => line ++ "\n"))

def codeFor (well : Bool) : Nat := if well then 0 else 1

/-- Load the lines and check them all. -/
def findReport (pages : Pages) (config : Config) (o : Options) : Action CheckReport := do
  let lines ← loadLines config o
  let limit := o.number? .runTimeout
  let seconds := (limit.map Layout.message.write).getD ""
  orFail (runFault seconds) (← logged (runWithin (limit.map .real) pages lines))

/-- Show a report and save it where that is asked for. -/
def present (report : CheckReport) (o : Options) : Action Nat := do
  echoAll (report.results.map CheckResult.describe)
  saveJson report o
  saveHtml report o
  return codeFor report.isOk

def check (pages : Pages) (config : Config) (o : Options) : Action Nat := do
  present (← findReport pages config o) o

def validLine? (line : SpecLine) : Option String :=
  match line.outcome with
  | .ok spec =>
    some ("Line " ++ toString line.number ++ ": " ++ spec.url ++ " " ++ spec.predicate.expression)
  | .error _ => none

def invalidLine? (line : SpecLine) : Option String :=
  match line.outcome with
  | .ok _ => none
  | .error e => some e.message

def validate (config : Config) (o : Options) : Action Nat := do
  let lines ← loadLines config o
  let valid := lines.filterMap validLine?
  let invalid := lines.filterMap invalidLine?
  echoAll valid
  complain (String.join (invalid.map fun line => line ++ "\n"))
  echo (toString valid.length ++ " valid, " ++ toString invalid.length ++ " invalid")
  return codeFor invalid.isEmpty

def printConfig (config : Config) : Action Nat := do
  echo config.print
  return 0

def commandOf (word : String) : Except UsageFault Command :=
  match Command.ofName? word with
  | some command => .ok command
  | none => .error (.noCommand word (Text.closest word (Command.all.map Command.name)))

/-- Find the command. A word that looks like a switch is read as one first. -/
def findCommand (rest : List String) : Action (Command × List String) := do
  match rest with
  | [] => stopAt .top (.fault .missingCommand)
  | word :: words =>
    match commandOf word with
    | .ok command => return (command, words)
    | .error fault =>
      if Reader.isSwitchWord word then
        let _ ← options none .top rest
      stopAt .top (.fault fault)

def runCommand (world : World) (config : Config) (command : Command) (words : List String) :
    Action Nat := do
  let o ← options world.specFile command words
  match command with
  | .check => check world.pages config o
  | .validate => validate config o
  | _ => printConfig config

def program (world : World) (words : List String) : Action Nat := do
  if words.isEmpty then
    complain Command.top.help
    throw (.code 2)
  let o ← options none .top words
  let (command, words) ← findCommand o.rest
  setUpLogger o
  let config ← loadConfig o
  runCommand world config command words

structure Outcome where
  exit : Exit
  output : Text.Codes
  errors : String
  files : Files

def run (world : World) (words : List String) : Outcome :=
  let (result, t) := (program world words).run.run
    ⟨world.stamp, Log.Logger.initial, ⟨[], world.files, true⟩, ""⟩
  let exit := match result with
    | .ok n => Exit.code n
    | .error exit => exit
  ⟨exit, t.output.screen, t.errors, t.output.files⟩

end PageCheck.Cli
