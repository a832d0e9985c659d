import PageCheck.Number.Layout
import PageCheck.Text.Digit
import PageCheck.Value

/-!
# Writing JSON

A value has a compact form on one line and a pretty one with an item per line. In strings only the
quote, the backslash, control characters and halves of characters are escaped.
-/

namespace PageCheck.Json

def escape (c : Char) : List Char :=
  if c = '"' then ['\\', '"']
  else if c = '\\' then ['\\', '\\']
  else if c = '\n' then ['\\', 'n']
  else if c = '\r' then ['\\', 'r']
  else if c = '\t' then ['\\', 't']
  else if c.toNat = 8 then ['\\', 'b']
  else if c.toNat = 12 then ['\\', 'f']
  else if c.toNat < 0x20 then '\\' :: 'u' :: Text.hexDigits 4 c.toNat
  else [c]

def writeString (s : List Char) : List Char := '"' :: s.flatMap escape ++ ['"']

def escapeCode : Text.Code → List Char
  | .char c => escape c
  | .half index => '\\' :: 'u' :: Text.hexDigits 4 (Text.firstHalf + index)

def writeCodes (s : Text.Codes) : List Char := '"' :: s.flatMap escapeCode ++ ['"']

/-- A place in the pretty form: `none` asks for the compact one. -/
abbrev Indent := Option Nat

def lineBreak : Indent → List Char
  | none => []
  | some depth => '\n' :: List.replicate (2 * depth) ' '

def deeper (indent : Indent) : Indent := indent.map (· + 1)

def separator (indent : Indent) : List Char :=
  match indent with
  | none => [',', ' ']
  | some _ => ',' :: lineBreak indent

def writeInt (n : Int) : List Char :=
  if n < 0 then '-' :: Nat.toDigits 10 n.natAbs else Nat.toDigits 10 n.natAbs

mutual

/-- The text of a value. Kinds that JSON lacks have no text of their own. -/
def write (indent : Indent) : Value → List Char
  | .bool b => (if b then "true" else "false").toList
  | .int n => writeInt n
  | .real x => (Layout.printed.write x).toList
  | .text s => writeString s.toList
  | .brokenText codes => writeCodes codes
  | .list [] => ['[', ']']
  | .list (v :: rest) =>
    '[' :: lineBreak (deeper indent) ++ write (deeper indent) v ++
      writeItems (deeper indent) rest ++ lineBreak indent ++ [']']
  | .map [] => ['{', '}']
  | .map ((key, v) :: rest) =>
    '{' :: lineBreak (deeper indent) ++ writeKey key ++ write (deeper indent) v ++
      writeMembers (deeper indent) rest ++ lineBreak indent ++ ['}']
  | _ => "null".toList

def writeItems (indent : Indent) : List Value → List Char
  | [] => []
  | v :: rest => separator indent ++ write indent v ++ writeItems indent rest

def writeMembers (indent : Indent) : List (Value × Value) → List Char
  | [] => []
  | (key, v) :: rest =>
    separator indent ++ writeKey key ++ write indent v ++ writeMembers indent rest

def writeKey : Value → List Char
  | .text s => writeString s.toList ++ [':', ' ']
  | _ => [':', ' ']

end

def compact (v : Value) : String := String.ofList (write none v)

def pretty (v : Value) : String := String.ofList (write (some 0) v)

end PageCheck.Json
