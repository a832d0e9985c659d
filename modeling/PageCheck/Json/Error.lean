import PageCheck.Text.Digit

/-!
# Errors of JSON texts

An error says what was expected and how much of the text was still unread there; line, column and
offset are computed from that.
-/

namespace PageCheck.Json

inductive Fault where
  | byteOrderMark
  | value
  | propertyName
  | colon
  | comma
  | extraData
  | unterminatedString
  | controlCharacter
  | escape
  | unicodeEscape
  | longNumber (digits : Nat)
deriving DecidableEq, Repr

namespace Fault

def describe : Fault → String
  | byteOrderMark => "Unexpected UTF-8 BOM (decode using utf-8-sig)"
  | value => "Expecting value"
  | propertyName => "Expecting property name enclosed in double quotes"
  | colon => "Expecting ':' delimiter"
  | comma => "Expecting ',' delimiter"
  | extraData => "Extra data"
  | unterminatedString => "Unterminated string starting at"
  | controlCharacter => "Invalid control character at"
  | escape => "Invalid \\escape"
  | unicodeEscape => "Invalid \\uXXXX escape"
  | longNumber digits => Text.longNumberMessage (some digits)

/-- Faults of the grammar are reported with their place. -/
def isGrammatical : Fault → Bool
  | longNumber _ => false
  | _ => true

end Fault

/-- A fault and the number of characters from its place to the end of the text. -/
structure Stop where
  fault : Fault
  unread : Nat
deriving DecidableEq, Repr

namespace Stop

def offset (text : List Char) (s : Stop) : Nat := text.length - s.unread

def line (text : List Char) (s : Stop) : Nat :=
  (text.take (s.offset text)).count '\n' + 1

def column (text : List Char) (s : Stop) : Nat :=
  ((text.take (s.offset text)).reverse.takeWhile (· != '\n')).length + 1

def message (text : List Char) (s : Stop) : String :=
  if s.fault.isGrammatical then
    s.fault.describe ++ ": line " ++ toString (s.line text) ++ " column " ++
      toString (s.column text) ++ " (char " ++ toString (s.offset text) ++ ")"
  else s.fault.describe

end Stop

end PageCheck.Json
