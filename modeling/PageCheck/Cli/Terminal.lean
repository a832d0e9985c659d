import PageCheck.Log.Logger
import PageCheck.Text.Control

/-!
# The terminal

What a program shows and changes: its output, its errors, the files, and the logger that writes to
them. An action goes on from one terminal to the next one, or ends the program. What a program shows
goes without control sequences; the log keeps them.
-/

namespace PageCheck.Cli

structure Terminal where
  stamp : Log.Stamp
  logger : Log.Logger
  output : Log.Output
  errors : String

/-- A fault that nothing deals with: the kind it is of, and its wording. -/
inductive Escape where
  | log (fault : Log.Fault)
  /-- The home folder that a path starts from is not known. -/
  | home (message : String)
  | value (message : String)

def Escape.message : Escape → String
  | log fault => fault.message
  | home message => message
  | value message => message

inductive Exit where
  | code (n : Nat)
  | escape (escape : Escape)

def Exit.number : Exit → Nat
  | code n => n
  | escape _ => 1

abbrev Action := ExceptT Exit (StateM Terminal)

namespace Action

def show_ (text : String) : Action Unit :=
  modify fun t => { t with output := { t.output with screen := t.output.screen ++ Text.plain text } }

def echo (line : String) : Action Unit := show_ (line ++ "\n")

def complain (text : String) : Action Unit :=
  modify fun t => { t with errors := t.errors ++ Text.plain text }

def fail {α : Type} (line : String) : Action α := do
  complain (line ++ "\n")
  throw (.code 1)

/-- Go on with the value of a computation, after its records have been logged. -/
def logged {α : Type} (x : Logged α) : Action α := do
  modify fun t => { t with output := t.logger.logAll t.stamp t.output x.records }
  return x.value

def files : Action Files := do return (← get).output.files

def setFiles (files : Files) : Action Unit :=
  modify fun t => { t with output := { t.output with files := files } }

/-- Go on with a value, or end the program with the line of a fault. -/
def orFail {ε α : Type} (line : ε → String) : Except ε α → Action α
  | .ok a => pure a
  | .error e => fail (line e)

end Action

end PageCheck.Cli
