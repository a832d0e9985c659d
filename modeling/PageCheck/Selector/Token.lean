import PageCheck.Selector.Error
import PageCheck.Text.Code
import PageCheck.Text.Digit

/-!
# Tokens of selectors

Each reader takes a piece from the front of a text and returns the text behind it. Names keep their
escapes here: they are decoded where they are used. Names are read up to the last character that
can belong to them, so that nothing is ever given back to make a longer pattern fit.
-/

namespace PageCheck.Selector

open Text (Code Codes)
open Text.Codes (lowerBasic)

def isBreak (c : Code) : Bool := c == '\n' || c == '\r' || c == '\x0c'

def isSpaceChar (c : Code) : Bool := c == ' ' || c == '\t' || isBreak c

def space? : Codes → Option Codes
  | '\r' :: '\n' :: rest => some rest
  | c :: rest => if isSpaceChar c then some rest else none
  | [] => none

def behindComment? : Codes → Option Codes
  | '*' :: '/' :: rest => some rest
  | _ :: rest => behindComment? rest
  | [] => none

def blank? : Codes → Option Codes
  | '/' :: '*' :: rest => behindComment? rest
  | s => space? s

theorem length_space?_lt {s rest : Codes} (h : space? s = some rest) :
    rest.length < s.length := by
  unfold space? at h
  split at h
  · cases h
    simp only [List.length_cons]
    omega
  · split at h
    · cases h
      simp
    · cases h
  · cases h

theorem length_behindComment?_lt {s rest : Codes} (h : behindComment? s = some rest) :
    rest.length < s.length := by
  fun_induction behindComment? s with
  | case1 tail =>
    cases h
    simp only [List.length_cons]
    omega
  | case2 _ _ _ ih => exact Nat.lt_succ_of_lt (ih h)
  | case3 => cases h

theorem length_blank?_lt {s rest : Codes} (h : blank? s = some rest) :
    rest.length < s.length := by
  unfold blank? at h
  split at h
  · have := length_behindComment?_lt h
    simp only [List.length_cons]
    omega
  · exact length_space?_lt h

/-- Repeat a reader as often as it takes something. -/
def skipMany (reader : Codes → Option Codes) (s : Codes) : Codes :=
  match reader s with
  | some rest => if rest.length < s.length then skipMany reader rest else s
  | none => s
termination_by s.length

def skipBlanks (s : Codes) : Codes := skipMany blank? s

def escapeWidth : Nat := 6

/-- The digits of an escape, of those that count as such. -/
def digitRun (isDigit : Char → Bool) (s : Codes) : Codes :=
  (s.take escapeWidth).takeWhile (Code.is isDigit)

abbrev hexRun : Codes → Codes := digitRun Text.isHexDigit

/-- An escape whose backslash has been read. At the end of the text the backslash stands alone. -/
def escapeBody? (isDigit : Char → Bool) (s : Codes) : Option Codes :=
  if !(digitRun isDigit s).isEmpty then
    let rest := s.drop (digitRun isDigit s).length
    some ((space? rest).getD rest)
  else match s with
    | [] => some []
    | ['\n'] => some ['\n']
    | c :: rest => if isBreak c then none else some rest

def isNameStart (c : Code) : Bool := c.is Char.isAlpha || c == '_' || 0xA0 ≤ c.toNat

def isNameChar (c : Code) : Bool := isNameStart c || c.is Char.isDigit || c == '-'

def nameStart? (isDigit : Char → Bool) : Codes → Option Codes
  | '\\' :: rest => escapeBody? isDigit rest
  | c :: rest => if isNameStart c then some rest else none
  | [] => none

def nameChar? (isDigit : Char → Bool) : Codes → Option Codes
  | '\\' :: rest => escapeBody? isDigit rest
  | c :: rest => if isNameChar c then some rest else none
  | [] => none

/-- A name: a hyphen is not enough to begin one, but two are. -/
def nameWith? (isDigit : Char → Bool) (s : Codes) : Option Codes :=
  let first := match s with
    | '-' :: '-' :: rest => some rest
    | '-' :: rest => nameStart? isDigit rest
    | _ => nameStart? isDigit s
  first.map (skipMany (nameChar? isDigit))

abbrev name? : Codes → Option Codes := nameWith? Text.isHexDigit

/-- A string up to and with its closing quote. -/
def stringBody? (quote : Code) : Codes → Option Codes
  | [] => none
  | '\\' :: '\r' :: '\n' :: rest => stringBody? quote rest
  | ['\\'] => none
  | '\\' :: _ :: rest => stringBody? quote rest
  | c :: rest =>
    if c = quote then some rest
    else if isBreak c then none
    else stringBody? quote rest

def valueWith? (isDigit : Char → Bool) : Codes → Option Codes
  | '"' :: rest => stringBody? '"' rest
  | '\'' :: rest => stringBody? '\'' rest
  | s => nameWith? isDigit s

abbrev value? : Codes → Option Codes := valueWith? Text.isHexDigit

/-- The codes of `s` before its remainder `rest`. -/
def taken (s rest : Codes) : Codes := s.take (s.length - rest.length)

def char? (c : Code) : Codes → Option Codes
  | d :: rest => if d = c then some rest else none
  | [] => none

def close? (s : Codes) : Option Codes := char? ')' (skipBlanks s)

def comma? (s : Codes) : Option Codes := (char? ',' (skipBlanks s)).map skipBlanks

def values? (s : Codes) : Option Codes :=
  (value? s).map (skipMany fun rest => (comma? rest).bind value?)

structure AttributeText where
  space : Option Codes
  name : Codes
  comparison : Option (Codes × Codes)
  /-- The mark behind the value that says whether cases are told apart. -/
  mark : Option Code
deriving DecidableEq, Repr

inductive Token where
  | close
  | nesting
  | atRule
  | pseudoElement
  | custom (name : Codes)
  | pseudo (name : Codes) (opened : Bool)
  | contains (name values : Codes)
  | language (values : Codes)
  | direction (leftToRight : Bool)
  /-- A place among the children, or among those of one name. -/
  | place (name formula : Codes) (sameName : Bool) (restricted : Bool)
  | identifier (name : Codes)
  | className (name : Codes)
  | name (space : Option Codes) (name : Codes)
  | attribute (text : AttributeText)
  | combinator (c : Code)
deriving DecidableEq, Repr

def nameOrStar? : Codes → Option Codes
  | '*' :: rest => some rest
  | s => name? s

/-- A name space, which may be empty, with its bar. -/
def spacePart? (s : Codes) : Option (Codes × Codes) :=
  let body := (nameOrStar? s).getD s
  (char? '|' body).map fun rest => (taken s body, rest)

def qualified? (last : Codes → Option Codes) (s : Codes) :
    Option (Option Codes × Codes × Codes) :=
  let plain := (last s).map fun rest => (none, taken s rest, rest)
  match spacePart? s with
  | some (space, after) =>
    match last after with
    | some rest => some (some space, taken after rest, rest)
    | none => plain
  | none => plain

def comparison? : Codes → Option (Codes × Codes)
  | '=' :: rest => some (['='], rest)
  | c :: '=' :: rest =>
    if (['!', '~', '^', '|', '*', '$'] : Codes).contains c then some ([c, '='], rest) else none
  | _ => none

def bracket? (s : Codes) : Option Codes := char? ']' (skipBlanks s)

/-- The two letters of a mark in all their forms, of which three are no basic letters. -/
def isMark (c : Code) : Bool :=
  (['i', 'I', 's', 'S', '\u0130', '\u0131', '\u017F'] : Codes).contains c

def marked? (s : Codes) : Option (Code × Codes) :=
  match skipBlanks s with
  | c :: rest => if isMark c then (bracket? rest).map fun rest => (c, rest) else none
  | [] => none

/-- An attribute condition; its opening bracket has been read. -/
def attribute? (s : Codes) : Option (AttributeText × Codes) := do
  let (space, name, rest) ← qualified? name? (skipBlanks s)
  match comparison? (skipBlanks rest) with
  | some (sign, after) =>
    let start := skipBlanks after
    let behind ← value? start
    let value := taken start behind
    match marked? behind with
    | some (mark, rest) => some (⟨space, name, some (sign, value), some mark⟩, rest)
    | none => (bracket? behind).map fun rest => (⟨space, name, some (sign, value), none⟩, rest)
  | none => (bracket? rest).map fun rest => (⟨space, name, none, none⟩, rest)

def isSign (c : Code) : Bool := c == '+' || c == '-'

def isDigit (c : Code) : Bool := c.is Char.isDigit

/-- The second part of a formula, behind its variable. -/
def offset? (s : Codes) : Option Codes :=
  match skipBlanks s with
  | c :: rest =>
    if isSign c then
      let body := skipBlanks rest
      if (body.takeWhile isDigit).isEmpty then none else some (body.dropWhile isDigit)
    else none
  | [] => none

/-- The text behind a word in any mixture of cases. -/
def word? (word : String) (s : Codes) : Option Codes :=
  if lowerBasic (s.take word.length) = word then some (s.drop word.length) else none

def skipSign (s : Codes) : Codes :=
  match s with
  | c :: rest => if isSign c then rest else s
  | [] => []

/-- A formula for a place: a number, or a multiple of a variable with an offset. -/
def formula? (s : Codes) : Option Codes :=
  let body := skipSign s
  let digits := body.takeWhile isDigit
  let after := body.dropWhile isDigit
  match word? "n" after with
  | some rest => some ((offset? rest).getD rest)
  | none => if digits.isEmpty then none else some after

def placeText? (s : Codes) : Option Codes :=
  match formula? s with
  | some rest => some rest
  | none => (word? "even" s).or (word? "odd" s)

def skipComments (s : Codes) : Codes :=
  skipMany (fun s => match s with
    | '/' :: '*' :: rest => behindComment? rest
    | _ => none) s

/-- The word before the selectors that siblings are restricted to. -/
def restriction? (s : Codes) : Option Codes := do
  let rest ← space? (skipComments s)
  let rest ← word? "of" (skipBlanks rest)
  let rest ← space? (skipComments rest)
  some (skipBlanks rest)

def number (base : Nat) (digits : Codes) : Nat := Text.numeral base (digits.map Code.shown)

def escapedCode (digits : Codes) : Except Fault Code :=
  let n := number 16 digits
  if n = 0 then .ok '\uFFFD'
  else match Code.ofNat? n with
    | some c => .ok c
    | none => .error .escapeRange

def numbered? (s : Codes) : Option (Codes × Codes) :=
  if (hexRun s).isEmpty then none
  else (space? (s.drop (hexRun s).length)).map fun rest => (hexRun s, rest)

theorem length_numbered?_lt {s digits rest : Codes} (h : numbered? s = some (digits, rest)) :
    rest.length < s.length := by
  unfold numbered? at h
  split at h
  · cases h
  · obtain ⟨after, hafter, hpair⟩ := Option.map_eq_some_iff.mp h
    cases hpair
    have := length_space?_lt hafter
    simp only [List.length_drop] at this
    omega

/-- A number with the comment behind it. -/
def commented? (s : Codes) : Option Codes :=
  if (hexRun s).isEmpty then none
  else
    match s.drop (hexRun s).length with
    | '/' :: '*' :: more => (behindComment? more).map (taken s)
    | _ => none

/-- What a backslash without a number stands for, and what follows. In a string, a line end behind
it goes away. -/
def plainEscape (inString : Bool) : Codes → Codes × Codes
  | [] => (['\uFFFD'], [])
  | '\r' :: '\n' :: after => if inString then ([], after) else (['\\'], '\r' :: '\n' :: after)
  | c :: after =>
    if !isBreak c then ([c], after)
    else if c = '\n' && after.isEmpty then (['\uFFFD', '\n'], [])
    else if inString then ([], after)
    else (['\\'], c :: after)

def escapeAt (inString : Bool) (s : Codes) : Except Fault (Codes × Codes) :=
  match numbered? s with
  | some (digits, after) => (escapedCode digits).map fun c => ([c], after)
  | none =>
    match if inString then none else commented? s with
    | some text => .error (.escapeComment text)
    | none => .ok (plainEscape inString s)

theorem length_plainEscape_le (inString : Bool) (s : Codes) :
    (plainEscape inString s).2.length ≤ s.length := by
  fun_cases plainEscape inString s <;> simp only [List.length_cons, List.length_nil] <;> omega

theorem length_escapeAt_le {inString : Bool} {s text after : Codes}
    (h : escapeAt inString s = .ok (text, after)) : after.length ≤ s.length := by
  unfold escapeAt at h
  split at h
  · rename_i digits rest heq
    have hlt := length_numbered?_lt heq
    cases hc : escapedCode digits with
    | error e => rw [hc] at h; cases h
    | ok c => rw [hc] at h; cases h; omega
  · split at h
    · cases h
    · have hle := length_plainEscape_le inString s
      rw [Except.ok.inj h] at hle
      exact hle

def decode (inString : Bool) : Codes → Except Fault Codes
  | [] => .ok []
  | '\\' :: rest =>
    match _h : escapeAt inString rest with
    | .error e => .error e
    | .ok (text, after) => (decode inString after).map (text ++ ·)
  | c :: rest => (decode inString rest).map (c :: ·)
termination_by s => s.length
decreasing_by
  · exact Nat.lt_succ_of_le (length_escapeAt_le _h)
  · exact Nat.lt_succ_self rest.length

/-- The name of a class of elements, in lower case and with its colon. -/
def pseudoName (name : Codes) : Except Fault Codes :=
  (decode false name).map fun s => ':' :: lowerBasic s

def containsNames : List Codes := [":contains", ":-soup-contains", ":-soup-contains-own"]

def childPlaceNames : List Codes := [":nth-child", ":nth-last-child"]

def namePlaceNames : List Codes := [":nth-of-type", ":nth-last-of-type"]

/-- The argument of one of the classes with a grammar of their own. `body` stands behind the
opening parenthesis and the blanks there. -/
def special? (name body : Codes) : Except Fault (Option (Token × Codes)) := do
  let known ← pseudoName name
  let closing {α : Type} (value : α) (rest : Codes) : Option (α × Codes) :=
    (close? rest).map fun rest => (value, rest)
  if containsNames.contains known then
    pure ((values? body).bind fun rest => closing (.contains name (taken body rest)) rest)
  else if childPlaceNames.contains known then
    pure ((placeText? body).bind fun rest =>
      match close? rest with
      | some after => some (.place name (taken body rest) false false, after)
      | none => (restriction? rest).map fun after =>
          (.place name (taken body rest) false true, after))
  else if namePlaceNames.contains known then
    pure ((placeText? body).bind fun rest =>
      closing (.place name (taken body rest) true false) rest)
  else if known = ":lang" then
    pure ((values? body).bind fun rest => closing (.language (taken body rest)) rest)
  else if known = ":dir" then
    pure (match word? "ltr" body with
      | some rest => closing (.direction true) rest
      | none => (word? "rtl" body).bind (closing (.direction false)))
  else pure none

/-- A name behind a colon, which may be a custom one, or be followed by an opening parenthesis. -/
def classToken (rest after : Codes) : Token × Codes :=
  match rest, after with
  | '-' :: '-' :: _, _ => (.custom (taken rest after), after)
  | _, '(' :: inner => (.pseudo (taken rest after) true, skipBlanks inner)
  | _, _ => (.pseudo (taken rest after) false, after)

/-- A second colon and a name. -/
def elementToken? (rest : Codes) : Option (Token × Codes) :=
  match rest with
  | ':' :: more =>
    (name? more).map fun after =>
      match after with
      | '(' :: inner => (.pseudoElement, skipBlanks inner)
      | _ => (.pseudoElement, after)
  | _ => none

/-- What begins with a colon; `rest` stands behind it. -/
def colon? (rest : Codes) : Except Fault (Option (Token × Codes)) :=
  match name? rest with
  | none => .ok (elementToken? rest)
  | some after =>
    match after with
    | '(' :: inner =>
      match special? (taken rest after) (skipBlanks inner) with
      | .error e => .error e
      | .ok (some found) => .ok (some found)
      | .ok none => .ok (some (classToken rest after))
    | _ => .ok (some (classToken rest after))

def isCombinatorSign (c : Code) : Bool := ([',', '+', '>', '~'] : Codes).contains c

def sign? : Codes → Option (Code × Codes)
  | c :: rest => if isCombinatorSign c then some (c, rest) else none
  | [] => none

/-- A combinator: a sign among blanks, or a space that is not right before a sign. -/
def combinator? (s : Codes) : Option (Code × Codes) :=
  match h : blank? s with
  | none => (sign? s).map fun (c, rest) => (c, skipBlanks rest)
  | some after =>
    have := length_blank?_lt h
    if (space? s).isSome && (sign? after).isNone then some (' ', skipBlanks after)
    else combinator? after
termination_by s.length

def token? (s : Codes) : Except Fault (Option (Token × Codes)) :=
  match close? s with
  | some rest => .ok (some (.close, rest))
  | none =>
    let fallback : Option (Token × Codes) :=
      match qualified? nameOrStar? s with
      | some (space, name, rest) => some (.name space name, rest)
      | none => (combinator? s).map fun (c, rest) => (.combinator c, rest)
    match s with
    | ':' :: rest => colon? rest
    | '&' :: rest => .ok (some (.nesting, rest))
    | '@' :: c :: rest =>
      .ok (if c.is (·.toLower == 'p') then (name? rest).map fun rest => (.atRule, rest) else none)
    | '#' :: rest => .ok ((name? rest).map fun after => (.identifier (taken rest after), after))
    | '.' :: rest => .ok ((name? rest).map fun after => (.className (taken rest after), after))
    | '[' :: rest => .ok ((attribute? rest).map fun (text, rest) => (.attribute text, rest))
    | _ => .ok fallback

def strayFault (c : Code) (offset : Nat) : Fault :=
  if c = '[' then .malformed "attribute" offset
  else if c = '.' then .malformed "class" offset
  else if c = '#' then .malformed "id" offset
  else if c = ':' then .malformed "pseudo-class" offset
  else .badCharacter c offset

/-- A token with the offsets of its beginning and of what follows it. -/
structure Placed where
  token : Token
  start : Nat
  stop : Nat
deriving Repr

/-- The tokens of a text, up to its end or to the first fault. -/
structure Tokens where
  list : List Placed
  fault : Option Fault

/-- The length of a text without the blanks at its end. -/
def trimmedLength (s : Codes) : Nat :=
  match s with
  | [] => 0
  | _ :: rest => if (skipBlanks s).isEmpty then 0 else trimmedLength rest + 1

/-- The tokens from an offset on; `stop` is where the blanks at the end of the text begin. -/
def tokensFrom (stop offset : Nat) (s : Codes) : Tokens :=
  match s with
  | [] => ⟨[], none⟩
  | c :: tail =>
    if stop ≤ offset then ⟨[], none⟩
    else match token? s with
      | .error e => ⟨[], some e⟩
      | .ok none => ⟨[], some (strayFault c offset)⟩
      | .ok (some (token, rest)) =>
        if _h : rest.length ≤ tail.length then
          let next := offset + (s.length - rest.length)
          let others := tokensFrom stop next rest
          ⟨⟨token, offset, next⟩ :: others.list, others.fault⟩
        else ⟨[], some (strayFault c offset)⟩
termination_by s.length
decreasing_by exact Nat.lt_succ_of_le _h

/-- The tokens of a selector, the blanks at both ends left out. -/
def tokens (s : Codes) : Tokens :=
  let body := skipBlanks s
  tokensFrom (trimmedLength s) (s.length - body.length) body

end PageCheck.Selector
