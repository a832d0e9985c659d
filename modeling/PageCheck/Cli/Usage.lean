import PageCheck.Cli.Command
import PageCheck.Text.Quoted

/-!
# Faults of command lines

What can be wrong with how the program is called. Most faults are shown below the usage of the
command they belong to.
-/

namespace PageCheck.Cli

inductive UsageFault where
  | noSwitch (name : String) (similar : List String)
  | noCommand (name : String) (similar : List String)
  | missingCommand
  | missingValue (name : String)
  | needlessValue (name : String)
  | badValue (names : List String) (reason : String)
  | extra (words : List String)
deriving DecidableEq, Repr

namespace UsageFault

def question (similar : List String) : String :=
  match similar with
  | [] => ""
  | [name] => " Did you mean " ++ Text.quoted name ++ "?"
  | names => " (Possible options: " ++ ", ".intercalate (names.map Text.quoted) ++ ")"

def message : UsageFault → String
  | noSwitch name similar => "No such option " ++ Text.quoted name ++ "." ++ question similar
  | noCommand name similar => "No such command " ++ Text.quoted name ++ "." ++ question similar
  | missingCommand => "Missing command."
  | missingValue name => "Option " ++ Text.quoted name ++ " requires an argument."
  | needlessValue name => "Option " ++ Text.quoted name ++ " does not take a value."
  | badValue names reason =>
    "Invalid value for " ++ " / ".intercalate (names.map fun n => "'" ++ n ++ "'") ++ ": " ++ reason
  | extra words =>
    "Got unexpected extra argument" ++ (if words.length = 1 then "" else "s") ++ " (" ++
      " ".intercalate words ++ ")"

def isBare : UsageFault → Bool
  | missingValue _ => true
  | needlessValue _ => true
  | _ => false

def render (command : Command) (fault : UsageFault) : String :=
  let usage := command.usage ++ "\nTry '" ++ command.title ++ " --help' for help.\n\n"
  (if fault.isBare then "" else usage) ++ "Error: " ++ fault.message ++ "\n"

end UsageFault

end PageCheck.Cli
