import PageCheck.Text.Code
import PageCheck.Text.Digit
import PageCheck.Text.Printable

/-!
# Quoted texts in messages

Messages show a text between quotes, with escapes for the characters that do not print. The quote
is a single one unless the text holds single quotes and no double ones.
-/

namespace PageCheck.Text

/-- A character by its number, with as many digits as its size asks for. -/
def numbered (c : Char) : List Char :=
  if c.toNat < 0x100 then '\\' :: 'x' :: hexDigits 2 c.toNat
  else if c.toNat < 0x10000 then '\\' :: 'u' :: hexDigits 4 c.toNat
  else '\\' :: 'U' :: hexDigits 8 c.toNat

def quoteFor (s : List Char) : Char :=
  if s.contains '\'' && !s.contains '"' then '"' else '\''

def escapeChar (quote c : Char) : List Char :=
  if c = quote || c = '\\' then ['\\', c]
  else if c = '\n' then ['\\', 'n']
  else if c = '\r' then ['\\', 'r']
  else if c = '\t' then ['\\', 't']
  else if isPrintable c then [c]
  else numbered c

def quotedChars (s : List Char) : List Char :=
  quoteFor s :: s.flatMap (escapeChar (quoteFor s)) ++ [quoteFor s]

def quoted (s : String) : String := String.ofList (quotedChars s.toList)

def escapeCode (quote : Char) : Code → List Char
  | .char c => escapeChar quote c
  | .half index => '\\' :: 'u' :: hexDigits 4 (firstHalf + index)

/-- Codes between quotes; halves are shown by their numbers. -/
def quotedCodes (s : Codes) : List Char :=
  let quote := quoteFor (s.map Code.shown)
  quote :: s.flatMap (escapeCode quote) ++ [quote]

end PageCheck.Text
