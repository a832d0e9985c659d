import PageCheck.Text.Code

/-!
# Tokens of YAML texts

A cursor stands in a text and knows its line and column. Tokens mark where collections begin and
end, which of the nodes in them are keys and values, and what is said of a node before its content.
-/

namespace PageCheck.Yaml

/-- A place in a text: what comes next, and how much is before it. -/
structure Cursor where
  rest : List Char
  index : Nat
  line : Nat
  column : Nat

def isBreak (c : Char) : Bool :=
  c == '\n' || c == '\r' || c == '\u0085' || c == '\u2028' || c == '\u2029'

namespace Cursor

def next (p : Cursor) : Cursor :=
  match p.rest with
  | [] => p
  | c :: rest =>
    if isBreak c && !(c == '\r' && rest.head? == some '\n') then
      ⟨rest, p.index + 1, p.line + 1, 0⟩
    else ⟨rest, p.index + 1, p.line, if c = '\uFEFF' then p.column else p.column + 1⟩

def skip (p : Cursor) (n : Nat) : Cursor := n.repeat next p

def takeWhile (test : Char → Bool) (p : Cursor) : List Char × Cursor :=
  let found := p.rest.takeWhile test
  (found, p.skip found.length)

def skipSpaces (p : Cursor) : Cursor := (p.takeWhile (· == ' ')).2

def endsOr (test : Char → Bool) (p : Cursor) : Bool :=
  match p.rest with
  | [] => true
  | c :: _ => test c

def sees (test : Char → Bool) (p : Cursor) : Bool :=
  match p.rest with
  | [] => false
  | c :: _ => test c

/-- A line end as it counts in a text, and the place behind it. -/
def lineBreak? (p : Cursor) : Option (Char × Cursor) :=
  match p.rest with
  | '\r' :: '\n' :: _ => some ('\n', p.skip 2)
  | c :: _ =>
    if c = '\u2028' || c = '\u2029' then some (c, p.next)
    else if isBreak c then some ('\n', p.next)
    else none
  | [] => none

end Cursor

def isBreakOrSpace (c : Char) : Bool := isBreak c || c == ' '

def isSpace (c : Char) : Bool := isBreakOrSpace c || c == '\t'

/-- Whether white space or the end of the text follows some characters. -/
def spaceFollows (p : Cursor) (n : Nat) : Bool :=
  match p.rest.drop n with
  | [] => true
  | c :: _ => isSpace c

/-- Whether a mark of three characters with white space behind it stands here. -/
def atMark (mark : String) (p : Cursor) : Bool :=
  mark.toList.isPrefixOf p.rest && spaceFollows p 3

def atDocumentMark (p : Cursor) : Bool := atMark "---" p || atMark "..." p

/-- A name that nodes share, or the handle of a tag. -/
def isWordChar (c : Char) : Bool := c.isAlphanum || c == '-' || c == '_'

inductive Token where
  /-- A line that begins with a percent sign; the prefix a tag handle stands for, if it gives one. -/
  | directive (isVersion : Bool) (handle : Option (String × String))
  | documentStart
  | documentEnd
  | blockSequenceStart
  | blockMappingStart
  | blockEnd
  | flowSequenceStart
  | flowSequenceEnd
  | flowMappingStart
  | flowMappingEnd
  | blockEntry
  | flowEntry
  | key
  | value
  | alias (name : String)
  | anchor (name : String)
  | tag (handle : Option String) (suffix : String)
  | scalar (text : Text.Codes) (plain : Bool)
deriving DecidableEq, Repr

end PageCheck.Yaml
