import PageCheck.Report.Template
import PageCheck.Text.Blank
import PageCheck.Text.Split

/-!
# Reading templates

Slots stand in double braces, and the row for the results stands between two blocks, `for` with the
name of the result and `endfor`. Comments are left out, and so is one line end at the end of the
template. A slot names a count of the summary, a field of the result, the verdict in its own words or in
those of the template, or nothing that is known.
-/

namespace PageCheck.Template

inductive Mark where
  | text (s : List Char)
  | slot (s : List Char)
  | block (s : List Char)
  | comment

inductive Mode where
  | text
  | slot
  | block
  | comment
deriving DecidableEq

def Mode.mark (mode : Mode) (held : List Char) : Mark :=
  match mode with
  | .text => .text held.reverse
  | .slot => .slot held.reverse
  | .block => .block held.reverse
  | .comment => .comment

/-- Whether two characters begin or end something, and what is read then. -/
def Mode.change? (mode : Mode) (c d : Char) : Option Mode :=
  match mode, c, d with
  | .text, '{', '{' => some .slot
  | .text, '{', '%' => some .block
  | .text, '{', '#' => some .comment
  | .slot, '}', '}' => some .text
  | .block, '%', '}' => some .text
  | .comment, '#', '}' => some .text
  | _, _, _ => none

/-- The marks of a text; `held` has been read already, last character first. -/
def marks (mode : Mode) (held : List Char) : List Char → List Mark
  | [] => [mode.mark held]
  | [c] => [mode.mark (c :: held)]
  | c :: d :: rest =>
    match mode.change? c d with
    | some next => mode.mark held :: marks next [] rest
    | none => marks mode (c :: held) (d :: rest)

def words (s : List Char) : List String :=
  (Text.splitAt ' ' s).filterMap fun word =>
    if word.isEmpty then none else some (String.ofList word)

def isQuote (c : Char) : Bool := c == '"' || c == '\''

/-- A text in quotes, and what follows. -/
def quoted? : List Char → Option (String × List Char)
  | [] => none
  | quote :: s =>
    if isQuote quote then
      match s.span (· != quote) with
      | (text, _ :: rest) => if text.contains '\\' then none else some (String.ofList text, rest)
      | (_, []) => none
    else none

/-- One text in quotes for a report without failures, `if ok else` and another one. -/
def verdict? (s : List Char) : Option Slot :=
  match quoted? s with
  | none => none
  | some (good, rest) =>
    let (condition, rest) := rest.span (!isQuote ·)
    match words condition, quoted? rest with
    | ["if", "ok", "else"], some (bad, []) => some (.verdict good bad)
    | _, _ => none

/-- The slot that a name stands for; `result` is the name of the result at hand. -/
def named (result : Option String) (s : List Char) : Slot :=
  match (Text.splitAt '.' s).map String.ofList with
  | ["ok"] => .isOk
  | [owner, name] =>
    if result = some owner then .field name
    else if owner = "summary" then .count name
    else .blank
  | _ => .blank

def slotOf (result : Option String) (s : List Char) : Slot :=
  let s := Text.strip s
  (verdict? s).getD (named result s)

inductive Place where
  | before
  | row (result : String)
  | after

def Place.result? : Place → Option String
  | row result => some result
  | _ => none

def add (t : Template) (place : Place) (piece : Piece) : Template :=
  match place with
  | .before => { t with before := t.before ++ [piece] }
  | .row _ => { t with row := t.row ++ [piece] }
  | .after => { t with after := t.after ++ [piece] }

def step (state : Template × Place) (mark : Mark) : Template × Place :=
  let (t, place) := state
  match mark with
  | .text s => (t.add place (.text (String.ofList s)), place)
  | .slot s => (t.add place (.slot (slotOf place.result? s)), place)
  | .comment => (t, place)
  | .block s =>
    match words s with
    | ["for", result, "in", "results"] => (t, .row result)
    | ["endfor"] => (t, .after)
    | _ => (t, place)

def withoutLastBreak (s : List Char) : List Char :=
  if s.getLast? = some '\n' then s.dropLast else s

def ofText (text : String) : Template :=
  ((marks .text [] (withoutLastBreak text.toList)).foldl step (⟨[], [], []⟩, .before)).1

end PageCheck.Template
