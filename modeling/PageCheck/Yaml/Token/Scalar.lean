import PageCheck.Text.Digit
import PageCheck.Yaml.Fault
import PageCheck.Yaml.Token

/-!
# Scalars of YAML texts

Scalars are plain, quoted, or blocks of indented lines. A line end between two lines becomes a
space; of several line ends in a row all but the first one are kept.
-/

namespace PageCheck.Yaml

open Text (Code Codes)

/-- Whether a character of a plain scalar ends it, together with the one behind it. -/
def endsPlain (inFlow : Bool) (c : Char) (behind : Option Char) : Bool :=
  isSpace c ||
    (c == ':' && behind.all fun d => isSpace d || (inFlow && ",[]\x7b\x7d".toList.contains d)) ||
    (inFlow && ",?[]\x7b\x7d".toList.contains c)

def plainRun (inFlow : Bool) : List Char → List Char
  | [] => []
  | c :: rest => if endsPlain inFlow c rest.head? then [] else c :: plainRun inFlow rest

/-- Line ends and spaces: the line ends, and whether a document mark was met. -/
def breaksAndSpaces (p : Cursor) : List Char × Cursor × Bool :=
  go p.rest.length p
where
  go : Nat → Cursor → List Char × Cursor × Bool
    | 0, p => ([], p, false)
    | n + 1, p =>
      if p.sees (· == ' ') then go n p.next
      else match p.lineBreak? with
        | none => ([], p, false)
        | some (c, after) =>
          if atDocumentMark after then ([c], after, true)
          else
            let (others, last, marked) := go n after
            (c :: others, last, marked)

/-- What a line end with others behind it stands for. -/
def foldBreaks (first : Char) (others : List Char) : List Char :=
  if first ≠ '\n' then first :: others
  else if others.isEmpty then [' ']
  else others

/-- White space inside a plain scalar: what it stands for, whether a line ended, and the place
behind it. Nothing is returned where the scalar cannot go on. -/
def plainSpaces (p : Cursor) : List Char × Bool × Cursor :=
  let (spaces, after) := p.takeWhile (· == ' ')
  match after.lineBreak? with
  | none => (spaces, false, after)
  | some (c, start) =>
    if atDocumentMark start then ([], true, start)
    else
      let (others, last, marked) := breaksAndSpaces start
      (if marked then [] else foldBreaks c others, true, last)

/-- A plain scalar: its text, whether a line has ended behind it, and the place behind it. -/
def scanPlain (inFlow : Bool) (indent : Int) (p : Cursor) : List Char × Bool × Cursor :=
  go p.rest.length [] false p
where
  go : Nat → List Char → Bool → Cursor → List Char × Bool × Cursor
    | 0, _, crossed, p => ([], crossed, p)
    | n + 1, before, crossed, p =>
      let run := if p.sees (· == '#') then [] else plainRun inFlow p.rest
      if run.isEmpty then ([], crossed, p)
      else
        let (spaces, crossed, after) := plainSpaces (p.skip run.length)
        let piece := before ++ run
        if spaces.isEmpty || after.sees (· == '#') || (!inFlow && (after.column : Int) < indent) then
          (piece, crossed, after)
        else
          let (more, crossed, last) := go n spaces crossed after
          (piece ++ more, crossed, last)

def shortEscape? (c : Char) : Option Char :=
  match c with
  | '0' => some '\x00'
  | 'a' => some '\x07'
  | 'b' => some '\x08'
  | 't' => some '\t'
  | '\t' => some '\t'
  | 'n' => some '\n'
  | 'v' => some '\x0b'
  | 'f' => some '\x0c'
  | 'r' => some '\r'
  | 'e' => some '\x1b'
  | ' ' => some ' '
  | '"' => some '"'
  | '\\' => some '\\'
  | '/' => some '/'
  | 'N' => some '\u0085'
  | '_' => some '\u00A0'
  | 'L' => some '\u2028'
  | 'P' => some '\u2029'
  | _ => none

/-- How many digits an escape with a number has. -/
def escapeWidth? (c : Char) : Option Nat :=
  match c with
  | 'x' => some 2
  | 'u' => some 4
  | 'U' => some 8
  | _ => none

def numberedCode (width : Nat) (s : List Char) : Except Fault Code :=
  let digits := s.take width
  let n := Text.numeral 16 digits
  if digits.length < width || !digits.all Text.isHexDigit then .error .malformed
  else match Code.ofNat? n with
    | some code => .ok code
    | none => .error (if n < 0x80000000 then .value "chr() arg not in range(0x110000)" else .tooLarge)

/-- Line ends with blanks around them inside a quoted scalar. -/
def quotedBreaks (p : Cursor) : Except Fault (List Char × Cursor) :=
  go p.rest.length p
where
  go : Nat → Cursor → Except Fault (List Char × Cursor)
    | 0, p => .ok ([], p)
    | n + 1, p =>
      if atDocumentMark p then .error .malformed
      else
        let after := (p.takeWhile fun c => c == ' ' || c == '\t').2
        match after.lineBreak? with
        | none => .ok ([], after)
        | some (c, start) => (go n start).map fun (others, last) => (c :: others, last)

/-- The codes in a quoted scalar whose opening quote has been read. -/
def quotedCodes (double : Bool) (p : Cursor) : Except Fault (Codes × Cursor) :=
  go p.rest.length p
where
  go : Nat → Cursor → Except Fault (Codes × Cursor)
    | 0, _ => .error .malformed
    | n + 1, p =>
      let add (piece : List Char) (after : Cursor) : Except Fault (Codes × Cursor) :=
        (go n after).map fun (more, last) => (Codes.ofChars piece ++ more, last)
      match p.rest with
      | [] => .error .malformed
      | '\'' :: '\'' :: _ => if double then add ['\''] p.next else add ['\''] (p.skip 2)
      | '\'' :: _ => if double then add ['\''] p.next else .ok ([], p.next)
      | '"' :: _ => if double then .ok ([], p.next) else add ['"'] p.next
      | '\\' :: c :: digits =>
        if !double then add ['\\'] p.next
        else match shortEscape? c, escapeWidth? c with
          | some d, _ => add [d] (p.skip 2)
          | none, some width =>
            match numberedCode width digits with
            | .error e => .error e
            | .ok code =>
              (go n (p.skip (2 + width))).map fun (more, last) => (code :: more, last)
          | none, none =>
            match p.next.lineBreak? with
            | none => .error .malformed
            | some (_, start) =>
              match quotedBreaks start with
              | .error e => .error e
              | .ok (breaks, after) => add breaks after
      | c :: _ =>
        if c = ' ' || c = '\t' || isBreak c then
          let (spaces, after) := p.takeWhile fun c => c == ' ' || c == '\t'
          match after.lineBreak? with
          | none => add spaces after
          | some (d, start) =>
            match quotedBreaks start with
            | .error e => .error e
            | .ok (breaks, last) => add (foldBreaks d breaks) last
        else add [c] p.next

def scanQuoted (double : Bool) (p : Cursor) : Except Fault (Token × Cursor) :=
  (quotedCodes double p).map fun (codes, after) => (.scalar codes false, after)

/-- What is done with the line ends behind a block. -/
inductive Chomping where
  | clip
  | strip
  | keep
deriving DecidableEq, Repr

/-- The header of a block: what is done with its end, and its indentation if that is given. -/
def blockHeader (p : Cursor) : Except Fault (Chomping × Option Nat × Cursor) :=
  let sign (p : Cursor) : Option (Chomping × Cursor) :=
    if p.sees (· == '+') then some (.keep, p.next)
    else if p.sees (· == '-') then some (.strip, p.next)
    else none
  let digit (p : Cursor) : Option Nat × Cursor :=
    match p.rest with
    | c :: _ => if c.isDigit then (some (c.toNat - 48), p.next) else (none, p)
    | [] => (none, p)
  let (chomping, increment, after) :=
    match sign p with
    | some (chomping, after) =>
      let (increment, last) := digit after
      (chomping, increment, last)
    | none =>
      match digit p with
      | (some n, after) =>
        match sign after with
        | some (chomping, last) => (chomping, some n, last)
        | none => (.clip, some n, after)
      | (none, after) => (.clip, none, after)
  if increment = some 0 || !after.endsOr isBreakOrSpace then .error .malformed
  else
    let after := after.skipSpaces
    let after := if after.sees (· == '#') then (after.takeWhile (!isBreak ·)).2 else after
    match after.lineBreak? with
    | some (_, start) => .ok (chomping, increment, start)
    | none => if after.rest.isEmpty then .ok (chomping, increment, after) else .error .malformed

/-- The blank lines before a block and the column of its widest blank line or first character. -/
def blockIndentation (p : Cursor) : List Char × Nat × Cursor :=
  go p.rest.length 0 p
where
  go : Nat → Nat → Cursor → List Char × Nat × Cursor
    | 0, widest, p => ([], widest, p)
    | n + 1, widest, p =>
      if p.sees (· == ' ') then go n (max widest p.next.column) p.next
      else match p.lineBreak? with
        | none => ([], widest, p)
        | some (c, start) =>
          let (others, widest, last) := go n widest start
          (c :: others, widest, last)

def skipIndent (indent : Nat) (p : Cursor) : Cursor :=
  p.skip ((p.rest.take (indent - p.column)).takeWhile (· == ' ')).length

def blockBreaks (indent : Nat) (p : Cursor) : List Char × Cursor :=
  go p.rest.length (skipIndent indent p)
where
  go : Nat → Cursor → List Char × Cursor
    | 0, p => ([], p)
    | n + 1, p =>
      match p.lineBreak? with
      | none => ([], p)
      | some (c, start) =>
        let (others, last) := go n (skipIndent indent start)
        (c :: others, last)

def isBlank (c : Char) : Bool := c == ' ' || c == '\t'

/-- The lines of a block, without the end of the last one: that end and the blank lines behind the
block stand apart. -/
def blockLines (folded : Bool) (indent : Nat) (breaks : List Char) (p : Cursor) :
    List Char × List Char × List Char × Cursor :=
  go p.rest.length breaks p
where
  go : Nat → List Char → Cursor → List Char × List Char × List Char × Cursor
    | 0, breaks, p => ([], [], breaks, p)
    | n + 1, breaks, p =>
      if p.column ≠ indent || p.rest.isEmpty then ([], [], breaks, p)
      else
        let indented := p.sees isBlank
        let (line, behind) := p.takeWhile (!isBreak ·)
        let (ending, start) := match behind.lineBreak? with
          | some (c, start) => ([c], start)
          | none => ([], behind)
        let (more, last) := blockBreaks indent start
        if last.column = indent && !last.rest.isEmpty then
          let joint :=
            if folded && ending == ['\n'] && !indented && !last.sees isBlank then
              (if more.isEmpty then [' '] else [])
            else ending
          let (lines, ending, tail, stop) := go n more last
          (breaks ++ line ++ joint ++ lines, ending, tail, stop)
        else (breaks ++ line, ending, more, last)

/-- A block scalar whose mark has been read, inside a collection of the given indentation. -/
def scanBlock (folded : Bool) (around : Int) (p : Cursor) : Except Fault (List Char × Cursor) :=
  match blockHeader p with
  | .error e => .error e
  | .ok (chomping, increment, start) =>
    let least := max (around + 1) 1
    let (breaks, indent, first) :=
      match increment with
      | some n =>
        let indent := (least + n - 1).toNat
        let (breaks, first) := blockBreaks indent start
        (breaks, indent, first)
      | none =>
        let (breaks, widest, first) := blockIndentation start
        (breaks, max least.toNat widest, first)
    let (lines, ending, tail, last) := blockLines folded indent breaks first
    .ok (match chomping with
      | .strip => (lines, last)
      | .clip => (lines ++ ending, last)
      | .keep => (lines ++ ending ++ tail, last))

end PageCheck.Yaml
