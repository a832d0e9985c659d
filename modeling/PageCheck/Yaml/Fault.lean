import PageCheck.Text.Quoted

/-!
# Faults of YAML texts

Most faults are faults of the text as a whole. Scalars that have the form of a date, a number or a
tagged value, but stand for none, have faults with a wording of their own.
-/

namespace PageCheck.Yaml

inductive Fault where
  /-- The text is not a document of values. -/
  | malformed
  /-- A date, time or number that does not exist. -/
  | value (reason : String)
  /-- A text that is tagged as a truth value, and is none. -/
  | truth (text : Text.Codes)
  | time
  /-- A mapping that is tagged as a time; its members are looked at instead of a text. -/
  | timeMembers
  /-- An empty text that is tagged as a number. -/
  | emptyNumber
  /-- A character whose number is far too large. -/
  | tooLarge
deriving DecidableEq, Repr

namespace Fault

def message : Fault → String
  | malformed => ""
  | value reason => reason
  | truth text => String.ofList (Text.quotedCodes text)
  | time => "'NoneType' object has no attribute 'groupdict'"
  | timeMembers => "expected string or bytes-like object, got 'list'"
  | emptyNumber => "string index out of range"
  | tooLarge => "Python int too large to convert to C int"

end Fault

end PageCheck.Yaml
