import PageCheck.Log.Record
import PageCheck.Predicate.Reader
import PageCheck.Text.Lines
import PageCheck.Text.Utf8

/-!
# Specification files

A file holds one specification per line. Lines are read one by one: a line that cannot be read
is reported and kept, with its number, beside the others. Blank lines count but are left out. Only
where a line cannot even be reported all lines are given up.
-/

namespace PageCheck

/-- A line that is not blank, with its number counted from one. -/
structure SpecLine where
  number : Int
  text : String
  outcome : Except ParseError Spec

namespace SpecLine

def isValid (line : SpecLine) : Bool :=
  match line.outcome with
  | .ok _ => true
  | .error _ => false

def ofText (limit : Int) (number : Int) (text : List Char) : SpecLine :=
  ⟨number, String.ofList text, Spec.read limit (some number) text⟩

/-- Whether the error of a line, if there is one, can be raised. -/
def isWritable (line : SpecLine) : Bool :=
  match line.outcome with
  | .ok _ => true
  | .error e => e.isWritable

def complaint? (line : SpecLine) : Option Log.Record :=
  match line.outcome with
  | .ok _ => none
  | .error e => some ⟨.error, e.message⟩

end SpecLine

namespace SpecFile

/-- Why there are no lines. -/
inductive LoadError where
  /-- The home folder that a path starts from is not known. -/
  | home
  | missing (path : String)
  | notText (fault : Text.DecodeFault)
  /-- A line is to be reported with a number that is too long to be written. -/
  | longNumber
deriving DecidableEq, Repr

def LoadError.message : LoadError → String
  | home => "Could not determine home directory."
  | missing path => "Spec file not found: " ++ path
  | notText fault => fault.message
  | longNumber => Text.longNumberMessage none

/-- The lines that are not blank, with their numbers. -/
def numbered (number : Int) : List (List Char) → List (Int × List Char)
  | [] => []
  | line :: rest =>
    if Text.isBlankText line then numbered (number + 1) rest
    else (number, line) :: numbered (number + 1) rest

def linesOf (limit : Int) (text : List Char) : List SpecLine :=
  (numbered 1 (Text.lines text)).map fun (number, line) => SpecLine.ofText limit number line

def read (limit : Int) (text : String) : Logged (Except LoadError (List SpecLine)) :=
  let lines := linesOf limit text.toList
  let written := lines.takeWhile SpecLine.isWritable
  let complaints := written.filterMap SpecLine.complaint?
  if written.length = lines.length then
    ⟨.ok lines,
      complaints ++ [⟨.debug, "Parsed " ++ toString lines.length ++ " spec lines"⟩]⟩
  else ⟨.error .longNumber, complaints⟩

end SpecFile

end PageCheck
