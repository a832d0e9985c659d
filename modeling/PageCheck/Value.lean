import PageCheck.Number.Binary64
import PageCheck.Number.Calendar
import PageCheck.Text.Code

/-!
# Data trees

The values that configuration files hold and reports are written from. Mappings keep the order in
which their keys were first given.
-/

namespace PageCheck

inductive Value where
  | null
  | bool (b : Bool)
  | int (n : Int)
  | real (x : Binary64)
  | text (s : String)
  /-- Codes that are no text because a half stands alone among them. -/
  | brokenText (codes : Text.Codes)
  | bytes (octets : List UInt8)
  | date (d : Calendar.Date)
  | moment (m : Calendar.Moment)
  | list (items : List Value)
  | set (items : List Value)
  | map (entries : List (Value × Value))

namespace Value

def ofCodes (codes : List Nat) : Value :=
  if codes.all Nat.isValidChar then text (String.ofList (codes.map Char.ofNat))
  else brokenText (codes.filterMap Text.Code.ofNat?)

def ofText (codes : Text.Codes) : Value := (codes.text?.map text).getD (brokenText codes)

/-- The codes of a text. -/
def codes? : Value → Option Text.Codes
  | text s => some (.ofString s)
  | brokenText codes => some codes
  | _ => none

def kindName : Value → String
  | null => "NoneType"
  | bool _ => "bool"
  | int _ => "int"
  | real _ => "float"
  | text _ => "str"
  | brokenText _ => "str"
  | bytes _ => "bytes"
  | date _ => "date"
  | moment _ => "datetime"
  | list _ => "list"
  | set _ => "set"
  | map _ => "dict"

/-- Values that stand for nothing at all: a file that holds only such a value counts as empty. -/
def isVacant : Value → Bool
  | null => true
  | bool b => !b
  | int n => n == 0
  | real x => x.isZero
  | text s => s.isEmpty
  | brokenText codes => codes.isEmpty
  | bytes octets => octets.isEmpty
  | date _ => false
  | moment _ => false
  | list items => items.isEmpty
  | set items => items.isEmpty
  | map entries => entries.isEmpty

end Value

end PageCheck
