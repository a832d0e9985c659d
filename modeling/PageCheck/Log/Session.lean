import PageCheck.Log.Logger

/-!
# Sessions with the logger

A session is a logger with the screen and the files that it writes to. Calls set the logger up or
give it a message. A call that fails leaves behind what it had done by then.
-/

namespace PageCheck.Log

open Text (Codes)

/-- A message with the values for its directives and the stamp it gets. -/
structure Message where
  stamp : Stamp
  /-- It is missing if what was given is no number. -/
  level : Option Level
  pattern : Codes
  values : List Value

inductive Call where
  | configure (settings : Settings)
  /-- Set the logger up anew, without the handlers there are. -/
  | init (level : Value) (file : Option Path) (format : Codes)
  | log (message : Message)

/-- The settings that a call asks for. -/
def Call.settings? : Call → Option Settings
  | configure settings => some settings
  | init level file format => some ⟨level, file, format, true⟩
  | log _ => none

inductive CallFault where
  | configure (fault : Fault)
  /-- The level of a message is no number. -/
  | level
  /-- The level of a message has no name and is too long to be shown. -/
  | longLevel
deriving DecidableEq, Repr

def CallFault.message : CallFault → String
  | configure fault => fault.message
  | level => "level must be an integer"
  | longLevel => Text.longNumberMessage none

structure Session where
  logger : Logger
  output : Output

namespace Session

def configure (s : Session) (settings : Settings) : Session × Option CallFault :=
  let done := s.logger.configure s.output.files settings
  (⟨done.logger, { s.output with files := done.files }⟩, done.fault.map .configure)

/-- A message whose values do not fit its directives is written nowhere. -/
def log (s : Session) (m : Message) : Session × Option CallFault :=
  match m.level with
  | none => (s, some .level)
  | some level =>
    if s.logger.isEnabled level && Text.isLong level then (s, some .longLevel)
    else
      match message? m.pattern m.values with
      | none => (s, none)
      | some text =>
        let event : Event := ⟨level, text, m.pattern, argumentsOf m.values⟩
        ({ s with output := s.logger.log m.stamp s.output event }, none)

def call (s : Session) : Call → Session × Option CallFault
  | .configure settings => s.configure settings
  | .init level file format => s.configure ⟨level, file, format, true⟩
  | .log message => s.log message

def run (s : Session) (calls : List Call) : Session :=
  calls.foldl (fun s c => (s.call c).1) s

end Session

end PageCheck.Log
