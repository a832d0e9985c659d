import PageCheck.Check.Run
import PageCheck.Config
import PageCheck.SpecFile.Load

/-!
# Runs from files

A run reads the specifications of a file, the given one or that of the configuration, and checks
them all. It may be limited in time: a run that waits longer is given up.
-/

namespace PageCheck

inductive Seconds where
  | whole (n : Int)
  | real (x : Binary64)
deriving Repr

namespace Seconds

def text : Seconds → String
  | whole n => toString n
  | real x => Layout.message.write x

def isZero : Seconds → Bool
  | whole n => n == 0
  | real x => x.isZero

def isNegative : Seconds → Bool
  | whole n => n < 0
  | real x => x.opposite.isPositive

/-- Less time than it takes to begin with the checks. -/
def instant : Binary64 := Binary64.ofDecimal false 1 (-5)

/-- Whether the time is over when the checks have begun; so it is if it is no number. -/
def isInstant : Seconds → Bool
  | whole _ => false
  | real .nan => true
  | real x => x.isPositive && x.below instant

end Seconds

inductive RunStop where
  | stopped (stop : CheckStop)
  | overtime

namespace RunStop

def message : RunStop → String
  | stopped stop => stop.message
  | overtime => ""

/-- What stops a limited run: a page that never comes makes the time run out. -/
def ofCheck (stop : CheckStop) : RunStop := if stop.isSilence then overtime else stopped stop

end RunStop

/-- Run checks with a limit. No seconds are no limit, and with less a run does not even begin. If
the limit is reached at once, the checks still write their records, but there is no report unless
there is nothing to check. -/
def runWithin (limit : Option Seconds) (pages : Pages) (lines : List SpecLine) :
    Logged (Except RunStop CheckReport) :=
  match limit with
  | none => do return (← runChecks pages lines).mapError .stopped
  | some seconds =>
    if seconds.isZero then do return (← runChecks pages lines).mapError .stopped
    else if seconds.isNegative then pure (.error .overtime)
    else if seconds.isInstant && !(Run.valid lines).isEmpty then do
      let _ ← Run.outcomes pages lines
      return .error .overtime
    else do return (← runChecks pages lines).mapError .ofCheck

namespace Engine

inductive LoadError where
  /-- Neither a file nor a configuration with one is given. -/
  | noFile
  | file (error : SpecFile.LoadError)

def LoadError.message : LoadError → String
  | noFile => "No spec file given"
  | file e => e.message

/-- The file to read: the given one comes before that of the configuration. -/
def source? (config : Config) (given : Option Path) : Option Path := given.or config.specFile

def loadSpecs (files : Files) (config : Config) (given : Option Path) :
    Logged (Except LoadError (List SpecLine)) :=
  match source? config given with
  | none => pure (.error .noFile)
  | some p => do return (← SpecFile.load files config.depth p).mapError .file

inductive Error where
  | load (error : LoadError)
  | run (stop : RunStop)

def Error.message : Error → String
  | load e => e.message
  | run stop => stop.message

def complaint (limit : Option Seconds) : List Log.Record :=
  (limit.map fun s =>
    ⟨.error, "Checks did not finish within " ++ s.text ++ " seconds"⟩).toList

def run (files : Files) (pages : Pages) (config : Config) (given : Option Path)
    (limit : Option Seconds) : Logged (Except Error CheckReport) := do
  match ← loadSpecs files config given with
  | .error e => return .error (.load e)
  | .ok lines =>
    match ← runWithin limit pages lines with
    | .ok report => return .ok report
    | .error .overtime => ⟨.error (.run .overtime), complaint limit⟩
    | .error stop => return .error (.run stop)

end Engine

end PageCheck
