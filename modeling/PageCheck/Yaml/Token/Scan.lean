import PageCheck.Text.Utf8
import PageCheck.Yaml.Token.Scalar

/-!
# Finding the tokens of a YAML text

Block collections begin and end with the indentation of their entries. That a node is a key shows
only when the colon behind it is met: until then its place among the tokens is remembered, as long
as it stays on one line.
-/

namespace PageCheck.Yaml

open Text (Codes)

/-- A place where a key may have begun. -/
structure PossibleKey where
  /-- Nesting of flow collections there. -/
  level : Nat
  /-- How many tokens stand before it. -/
  position : Nat
  /-- Whether only a key can stand there. -/
  required : Bool
  index : Nat
  line : Nat
  column : Nat

structure Scanner where
  cursor : Cursor
  /-- Nesting of flow collections. -/
  level : Nat
  /-- The column of the innermost block collection, and of those around it. -/
  indent : Int
  indents : List Int
  keyAllowed : Bool
  keys : List PossibleKey
  /-- The tokens so far, last first, and their number. -/
  tokens : List Token
  count : Nat

abbrev Scan := Except Fault Scanner

/-- The longest distance between the beginning of a key and its colon. -/
def keyLimit : Nat := 1024

namespace Scanner

def start (text : List Char) : Scanner :=
  let cursor : Cursor := ⟨text, 0, 0, 0⟩
  ⟨if cursor.sees (· == '\uFEFF') then cursor.next else cursor, 0, -1, [], true, [], [], 0⟩

def push (s : Scanner) (token : Token) : Scanner :=
  { s with tokens := token :: s.tokens, count := s.count + 1 }

def insert (s : Scanner) (position : Nat) (token : Token) : Scanner :=
  let behind := s.count - position
  { s with tokens := s.tokens.take behind ++ token :: s.tokens.drop behind, count := s.count + 1 }

def inFlow (s : Scanner) : Bool := s.level != 0

def column (s : Scanner) : Int := s.cursor.column

/-- Go to the next token: over spaces, comments and line ends. -/
def skipBlanks (s : Scanner) : Scanner :=
  go s.cursor.rest.length s
where
  go : Nat → Scanner → Scanner
    | 0, s => s
    | n + 1, s =>
      let p := s.cursor.skipSpaces
      let p := if p.sees (· == '#') then (p.takeWhile (!isBreak ·)).2 else p
      match p.lineBreak? with
      | some (_, after) =>
        go n { s with cursor := after, keyAllowed := s.keyAllowed || !s.inFlow }
      | none => { s with cursor := p }

/-- Forget the keys that can no longer get their colon. -/
def dropStale (s : Scanner) : Scan :=
  let isStale (k : PossibleKey) : Bool :=
    k.line != s.cursor.line || keyLimit < s.cursor.index - k.index
  if s.keys.any fun k => isStale k && k.required then .error .malformed
  else .ok { s with keys := s.keys.filter (!isStale ·) }

def dropKey (s : Scanner) : Scan :=
  if s.keys.any fun k => k.level == s.level && k.required then .error .malformed
  else .ok { s with keys := s.keys.filter (·.level != s.level) }

def saveKey (s : Scanner) : Scan :=
  if s.keyAllowed then
    let required := !s.inFlow && s.indent == s.column
    let key : PossibleKey :=
      ⟨s.level, s.count, required, s.cursor.index, s.cursor.line, s.cursor.column⟩
    s.dropKey.map fun s => { s with keys := key :: s.keys }
  else .ok s

/-- End the block collections that are indented more than a column. -/
def unwind (s : Scanner) (column : Int) : Scanner :=
  if s.inFlow then s
  else go s.indents.length s
where
  go : Nat → Scanner → Scanner
    | 0, s => s
    | n + 1, s =>
      if column < s.indent then
        go n { s.push .blockEnd with indent := s.indents.headD (-1), indents := s.indents.drop 1 }
      else s

/-- Begin a block collection at a column, unless one is open there; `opened` says which. -/
def deepen (s : Scanner) (column : Int) (position : Nat) (opener : Token) : Scanner :=
  if s.indent < column then
    { s.insert position opener with indent := column, indents := s.indent :: s.indents }
  else s

def forward (s : Scanner) (n : Nat) : Scanner := { s with cursor := s.cursor.skip n }

def setKeyAllowed (s : Scanner) (allowed : Bool) : Scanner := { s with keyAllowed := allowed }

def documentMark (s : Scanner) (token : Token) : Scan :=
  (s.unwind (-1)).dropKey.map fun s => ((s.setKeyAllowed false).push token).forward 3

def openFlow (s : Scanner) (token : Token) : Scan :=
  s.saveKey.map fun s =>
    ({ s.setKeyAllowed true with level := s.level + 1 }.push token).forward 1

def closeFlow (s : Scanner) (token : Token) : Scan :=
  if s.level = 0 then .error .malformed
  else s.dropKey.map fun s =>
    ({ s.setKeyAllowed false with level := s.level - 1 }.push token).forward 1

def entry (s : Scanner) : Scan :=
  (s.setKeyAllowed true).dropKey.map fun s => (s.push .flowEntry).forward 1

def blockEntry (s : Scanner) : Scan :=
  if !s.inFlow && !s.keyAllowed then .error .malformed
  else
    let s := if s.inFlow then s else s.deepen s.column s.count .blockSequenceStart
    (s.setKeyAllowed true).dropKey.map fun s => (s.push .blockEntry).forward 1

def explicitKey (s : Scanner) : Scan :=
  if !s.inFlow && !s.keyAllowed then .error .malformed
  else
    let s := if s.inFlow then s else s.deepen s.column s.count .blockMappingStart
    (s.setKeyAllowed !s.inFlow).dropKey.map fun s => (s.push .key).forward 1

/-- A colon: what was remembered as a possible key is one. -/
def value (s : Scanner) : Scan :=
  match s.keys.find? (·.level == s.level) with
  | some k =>
    let s := { s with keys := s.keys.filter (·.level != s.level) }.insert k.position .key
    let s := if s.inFlow then s else s.deepen k.column k.position .blockMappingStart
    .ok (((s.setKeyAllowed false).push .value).forward 1)
  | none =>
    if !s.inFlow && !s.keyAllowed then .error .malformed
    else
      let s := if s.inFlow then s else s.deepen s.column s.count .blockMappingStart
      (s.setKeyAllowed !s.inFlow).dropKey.map fun s => (s.push .value).forward 1

def scanName (p : Cursor) : Except Fault (String × Cursor) :=
  let (name, after) := p.takeWhile isWordChar
  if name.isEmpty || !after.endsOr fun c => isSpace c || "?:,]\x7d%@\x60".toList.contains c then
    .error .malformed
  else .ok (String.ofList name, after)

def isUriChar (c : Char) : Bool := c.isAlphanum || "-;/?:@&=+$,_.!~*'()[]%".toList.contains c

/-- The text that a tag spells. A percent sign with two digits is a byte of a character; `held` are the
bytes that have just been read, the last one first. -/
def unescape (held : List UInt8) : List Char → Except Fault (List Char)
  | '%' :: a :: b :: rest =>
    if Text.isHexDigit a && Text.isHexDigit b then
      unescape (.ofNat (Text.numeral 16 [a, b]) :: held) rest
    else .error .malformed
  | '%' :: _ => .error .malformed
  | s =>
    match Text.decode held.reverse with
    | .error _ => .error .malformed
    | .ok text =>
      match s with
      | [] => .ok text.toList
      | c :: rest => (unescape [] rest).map fun more => text.toList ++ c :: more

/-- The suffix of a tag, with the characters that are written by their bytes. -/
def scanUri (p : Cursor) : Except Fault (String × Cursor) :=
  let (uri, after) := p.takeWhile isUriChar
  if uri.isEmpty then .error .malformed
  else (unescape [] uri).map fun text => (String.ofList text, after)

/-- The handle of a tag: exclamation marks around a word, or a single one before a space. -/
def scanHandle (p : Cursor) : Except Fault (String × Cursor) :=
  let after := p.next
  if !p.sees (· == '!') then .error .malformed
  else if after.sees (· == ' ') then .ok ("!", after)
  else
    let (word, last) := after.takeWhile isWordChar
    if last.sees (· == '!') then .ok ("!" ++ String.ofList word ++ "!", last.next)
    else .error .malformed

def scanTag (p : Cursor) : Except Fault (Option String × String × Cursor) :=
  let finish (handle : Option String) (suffix : String) (after : Cursor) :
      Except Fault (Option String × String × Cursor) :=
    if after.endsOr isBreakOrSpace then .ok (handle, suffix, after) else .error .malformed
  if (p.skip 1).sees (· == '<') then
    match scanUri (p.skip 2) with
    | .error e => .error e
    | .ok (uri, after) =>
      if after.sees (· == '>') then finish none uri after.next else .error .malformed
  else if spaceFollows p 1 then finish none "!" p.next
  else
    let word := (p.rest.drop 1).takeWhile (!isBreakOrSpace ·)
    let handle := if word.contains '!' then scanHandle p else .ok ("!", p.next)
    match handle with
    | .error e => .error e
    | .ok (handle, after) =>
      match scanUri after with
      | .error e => .error e
      | .ok (uri, last) => finish (some handle) uri last

/-- A line behind a directive: nothing but a comment. -/
def endOfLine (p : Cursor) : Except Fault Cursor :=
  let p := p.skipSpaces
  let p := if p.sees (· == '#') then (p.takeWhile (!isBreak ·)).2 else p
  if p.endsOr isBreak then .ok ((p.lineBreak?.map (·.2)).getD p) else .error .malformed

/-- A number of a version. -/
def scanNumber (p : Cursor) : Except Fault (Nat × Cursor) :=
  let (digits, after) := p.takeWhile Char.isDigit
  if digits.isEmpty then .error .malformed
  else if Text.digitLimit < digits.length then
    .error (.value (Text.longNumberMessage (some digits.length)))
  else .ok (Text.numeral 10 digits, after)

def scanVersion (p : Cursor) : Except Fault Cursor := do
  let (major, dot) ← scanNumber p.skipSpaces
  if !dot.sees (· == '.') then throw .malformed
  let (_, after) ← scanNumber dot.next
  if major = 1 && after.endsOr isBreakOrSpace then return after else throw .malformed

def scanPrefix (p : Cursor) : Except Fault (String × String × Cursor) := do
  let (handle, after) ← scanHandle p.skipSpaces
  if !after.sees (· == ' ') then throw .malformed
  let (uri, last) ← scanUri after.skipSpaces
  if last.endsOr isBreakOrSpace then return (handle, uri, last) else throw .malformed

/-- A directive; the percent sign has been read. -/
def scanDirective (p : Cursor) : Except Fault (Token × Cursor) := do
  let (name, after) := p.takeWhile isWordChar
  if name.isEmpty || !after.endsOr isBreakOrSpace then throw .malformed
  if name = "YAML".toList then
    return (.directive true none, ← endOfLine (← scanVersion after))
  else if name = "TAG".toList then
    let (handle, uri, last) ← scanPrefix after
    return (.directive false (some (handle, uri)), ← endOfLine last)
  else return (.directive false none, ← endOfLine (after.takeWhile (!isBreak ·)).2)

def directive (s : Scanner) : Scan := do
  let s ← (s.unwind (-1)).dropKey
  let (token, after) ← scanDirective s.cursor.next
  return { (s.setKeyAllowed false).push token with cursor := after }

/-- A token that can be or begin a key. -/
def keyed (s : Scanner) (scan : Cursor → Except Fault (Token × Cursor)) : Scan := do
  let s ← s.saveKey
  let (token, after) ← scan s.cursor
  return { (s.setKeyAllowed false).push token with cursor := after }

def plain (s : Scanner) : Scan := do
  let s ← s.saveKey
  let (text, crossed, after) := scanPlain s.inFlow (s.indent + 1) s.cursor
  return { (s.setKeyAllowed crossed).push (.scalar (Codes.ofChars text) true) with cursor := after }

def block (s : Scanner) (folded : Bool) : Scan := do
  let s ← (s.setKeyAllowed true).dropKey
  let (text, after) ← scanBlock folded s.indent s.cursor.next
  return { s.push (.scalar (Codes.ofChars text) false) with cursor := after }

def beginsPlain (s : Scanner) (c : Char) : Bool :=
  !(isSpace c || "-?:,[]\x7b\x7d#&*!|>'\"%@\x60".toList.contains c) ||
    (!spaceFollows s.cursor 1 && (c == '-' || (!s.inFlow && (c == '?' || c == ':'))))

def step (s : Scanner) (c : Char) : Scan :=
  let p := s.cursor
  let spaced := spaceFollows p 1
  if c = '%' && p.column = 0 then s.directive
  else if p.column = 0 && atMark "---" p then s.documentMark .documentStart
  else if p.column = 0 && atMark "..." p then s.documentMark .documentEnd
  else match c with
    | '[' => s.openFlow .flowSequenceStart
    | '{' => s.openFlow .flowMappingStart
    | ']' => s.closeFlow .flowSequenceEnd
    | '}' => s.closeFlow .flowMappingEnd
    | ',' => s.entry
    | '*' => s.keyed fun p => (scanName p.next).map fun (name, after) => (.alias name, after)
    | '&' => s.keyed fun p => (scanName p.next).map fun (name, after) => (.anchor name, after)
    | '!' => s.keyed fun p => (scanTag p).map fun (handle, suffix, after) =>
        (.tag handle suffix, after)
    | '\'' => s.keyed fun p => scanQuoted false p.next
    | '"' => s.keyed fun p => scanQuoted true p.next
    | _ =>
      if c = '-' && spaced then s.blockEntry
      else if c = '?' && (s.inFlow || spaced) then s.explicitKey
      else if c = ':' && (s.inFlow || spaced) then s.value
      else if c = '|' && !s.inFlow then s.block false
      else if c = '>' && !s.inFlow then s.block true
      else if s.beginsPlain c then s.plain
      else .error .malformed

def run : Nat → Scanner → Scan
  | 0, _ => .error .malformed
  | n + 1, s =>
    match s.skipBlanks.dropStale with
    | .error e => .error e
    | .ok s =>
      let s := s.unwind s.column
      match s.cursor.rest with
      | [] => (s.unwind (-1)).dropKey
      | c :: _ =>
        match s.step c with
        | .error e => .error e
        | .ok next => run n next

end Scanner

/-- The tokens of a text. Every token takes a character, so the text bounds their number. -/
def tokens (text : List Char) : Except Fault (List Token) :=
  (Scanner.run (text.length + 1) (.start text)).map fun s => s.tokens.reverse

end PageCheck.Yaml
