import PageCheck.Selector.Basic
import PageCheck.Selector.Token

/-!
# Reading selectors

The tokens of a selector are read from left to right into lists of alternatives. A list that stands
in parentheses is read up to the parenthesis that closes it. Of the compound that is being read,
what stands before it hangs on its last combinator; in a relative list it is the other way round,
each compound hangs on the combinator before it.
-/

namespace PageCheck.Selector

open Text (Code Codes)
open Text.Codes (lowerBasic)

structure ListKind where
  /-- It ends with a closing parenthesis. -/
  opened : Bool
  negated : Bool
  /-- Its selectors say what comes after an element. -/
  relative : Bool
  /-- An empty place holds of nothing, where it would be an error elsewhere. -/
  forgiving : Bool
deriving DecidableEq, Repr

namespace ListKind

def outermost : ListKind := ⟨false, false, false, false⟩

def nested : ListKind := ⟨true, false, false, false⟩

/-- The list behind the name of a class of elements that is written with a list. -/
def ofName? (name : String) : Option ListKind :=
  if name = ":not" then some { nested with negated := true }
  else if name = ":has" then some { nested with relative := true }
  else if name = ":is" ∨ name = ":where" then some { nested with forgiving := true }
  else if [":matches", ":contains", ":-soup-contains", ":-soup-contains-own"].contains name then
    some nested
  else none

end ListKind

/-- Lists that are read, but hold of nothing in a page at rest. -/
def idleLists : List String := [":current", ":host", ":host-context"]

/-- Names that hold of nothing in a page at rest. -/
def idleNames : List String :=
  [":active", ":autofill", ":buffering", ":current", ":focus", ":focus-visible", ":focus-within",
    ":fullscreen", ":future", ":host", ":hover", ":local-link", ":modal", ":past", ":paused",
    ":picture-in-picture", ":playing", ":popover-open", ":seeking", ":stalled", ":target",
    ":target-within", ":user-invalid", ":user-valid", ":visited", ":volume-locked"]

def argumentNames : List String :=
  [":dir", ":lang", ":nth-child", ":nth-last-child", ":nth-last-of-type", ":nth-of-type"]

def first (sameName fromEnd : Bool) : Condition := .position ⟨none, 1, sameName, fromEnd⟩ none

def simpleConditions? (name : String) : Option (List Condition) :=
  match name with
  | ":first-child" => some [first false false]
  | ":last-child" => some [first false true]
  | ":only-child" => some [first false false, first false true]
  | ":first-of-type" => some [first true false]
  | ":last-of-type" => some [first true true]
  | ":only-of-type" => some [first true false, first true true]
  | ":root" => some [.state .root]
  | ":scope" => some [.state .scope]
  | ":empty" => some [.state .empty]
  | ":defined" => some [.state .defined]
  | ":link" => some [.state .link]
  | ":any-link" => some [.state .link]
  | ":checked" => some [.state .checked]
  | ":default" => some [.state .preselected]
  | ":disabled" => some [.state .disabled]
  | ":enabled" => some [.state .enabled]
  | ":indeterminate" => some [.state .undecided]
  | ":in-range" => some [.state .inRange]
  | ":out-of-range" => some [.state .outOfRange]
  | ":optional" => some [.state .optional]
  | ":required" => some [.state .required]
  | ":placeholder-shown" => some [.state .placeholderShown]
  | ":read-only" => some [.state .readOnly]
  | ":read-write" => some [.state .readWrite]
  | ":open" => some [.state .opened]
  | ":muted" => some [.state .muted]
  | _ => if idleNames.contains name then some [.never] else none

def isKnown (name : String) : Bool :=
  (simpleConditions? name).isSome || (ListKind.ofName? name).isSome || idleLists.contains name ||
    argumentNames.contains name

/-- A text that is a name or stands between quotes. -/
def valueText (s : Codes) : Except Fault Codes :=
  match s with
  | '"' :: rest => decode true rest.dropLast
  | '\'' :: rest => decode true rest.dropLast
  | _ => decode false s

def nameText (s : Codes) : Except Fault Codes := decode false s

def isSmallHexDigit (c : Char) : Bool := Text.isHexDigit c && !c.isUpper

/-- The values in a text; what is no value is passed over. Cases are told apart here, so a capital
letter does not belong to the number of an escape. -/
def valuesIn (s : Codes) : List Codes :=
  match s with
  | [] => []
  | c :: tail =>
    match valueWith? isSmallHexDigit (c :: tail), comma? (c :: tail) with
    | some rest, _ =>
      if rest.length ≤ tail.length then taken (c :: tail) rest :: valuesIn rest
      else valuesIn tail
    | none, some rest => if rest.length ≤ tail.length then valuesIn rest else valuesIn tail
    | none, none => valuesIn tail
termination_by s.length

def digitsNumber (digits : Codes) : Except Fault Nat :=
  if Text.digitLimit < digits.length then .error (.longNumber digits.length)
  else .ok (number 10 digits)

def signed (sign : Option Code) (n : Nat) : Int := if sign = some (Code.char '-') then -n else n

def takeSign (s : Codes) : Option Code × Codes :=
  match s with
  | c :: rest => if isSign c then (some c, rest) else (none, s)
  | [] => (none, [])

def readFormula (s : Codes) : Except Fault (Option Int × Int) := do
  if s = "even" then return (some 2, 0)
  if s = "odd" then return (some 2, 1)
  let (sign, body) := takeSign s
  let digits := body.takeWhile isDigit
  match body.dropWhile isDigit with
  | 'n' :: rest =>
    let step ← if digits.isEmpty then pure 1 else digitsNumber digits
    let (offsetSign, more) := takeSign (skipBlanks rest)
    let offset ← digitsNumber ((skipBlanks more).takeWhile isDigit)
    return (some (signed sign step), signed offsetSign offset)
  | _ => return (none, signed sign (← digitsNumber digits))

def readAttribute (text : AttributeText) : Except Fault (Condition × Bool) := do
  let _ ← text.space.mapM nameText
  let key ← nameText text.name
  let anyCase := match text.mark with
    | some c => c == 'i' || c == 'I'
    | none => lowerBasic key == "type"
  match text.comparison with
  | none => return (.attribute key .present anyCase, false)
  | some (sign, raw) =>
    let value ← valueText raw
    let test : ValueTest := match sign with
      | '^' :: _ => .begins value
      | '$' :: _ => .ends value
      | '*' :: _ => .contains value
      | '~' :: _ => .word value
      | '|' :: _ => .dashed value
      | _ => .equals value
    return (.attribute key test anyCase, sign.head? == some (Code.char '!'))

def negation (condition : Condition) : Condition := .list (.mk true false [[condition]])

/-- Where the texts of a condition are looked for: the first such condition of a compound decides
between the whole text and the own strings of an element. -/
def textPart (before : List Condition) (own : Bool) : TextPart :=
  let earlier := before.findSome? fun
    | .contains .whole _ => some false
    | .contains .own _ => some true
    | _ => none
  match earlier.getD own, own with
  | false, false => .whole
  | true, true => .own
  | true, false => .ownExactly
  | false, true => .character

structure Progress where
  /-- The conditions of the current compound. -/
  compound : List Condition
  begun : Bool
  /-- The compounds before the current one, in a relative list the nearest first, with their
  combinators. -/
  chain : List (Combinator × List Condition)
  /-- The combinator before the current compound of a relative list. -/
  lead : Combinator
  /-- The finished alternatives. -/
  done : List (List Condition)
  markup : Bool

namespace Progress

def start : Progress := ⟨[], false, [], .descendant, [], false⟩

def add (p : Progress) (conditions : List Condition) : Progress :=
  { p with compound := p.compound ++ conditions, begun := true }

def behind (p : Progress) : List Condition :=
  p.chain.map fun (combinator, conditions) => .behind combinator conditions

/-- The condition that a chain of compounds makes, the last one first. -/
def aheadOf (chain : List (Combinator × List Condition)) : List Condition :=
  chain.foldl (fun inner (combinator, conditions) => [.ahead combinator (conditions ++ inner)]) []

/-- The current compound put at the end of its chain. -/
def linked (p : Progress) : List (Combinator × List Condition) := (p.lead, p.compound) :: p.chain

def follow (p : Progress) (combinator : Combinator) : Progress :=
  { p with compound := [], begun := false,
           chain := [(combinator, p.compound ++ p.behind)] }

def finish (p : Progress) (alternative : List Condition) : Progress :=
  { p with compound := [], begun := false, chain := [], lead := .descendant,
           done := p.done ++ [alternative] }

end Progress

/-- The combinator that a sign stands for; a comma stands for none. -/
def combinatorOf? (c : Code) : Option Combinator :=
  match c with
  | '>' => some .child
  | '+' => some .adjacent
  | '~' => some .sibling
  | ',' => none
  | _ => some .descendant

/-- A combinator or a comma in a list; `index` is the end of the token before it. -/
def step (kind : ListKind) (index : Nat) (c : Code) (p : Progress) : Except Fault Progress :=
  match combinatorOf? c with
  | none =>
    if !p.begun then
      if kind.forgiving then .ok (p.finish [.never])
      else .error (.leadingCombinator "," index)
    else if kind.relative then .ok (p.finish (Progress.aheadOf p.linked))
    else .ok (p.finish (p.compound ++ p.behind))
  | some combinator =>
    if kind.relative then
      if p.begun then
        .ok { p with compound := [], begun := false, chain := p.linked, lead := combinator }
      else if p.lead ≠ .descendant then .error (.doubleCombinator index)
      else .ok { p with compound := [], lead := combinator }
    else if p.begun then .ok (p.follow combinator)
    else .error (.leadingCombinator (Codes.shown [c]) index)

/-- The finished list; `index` is the end of its last token. -/
def close (kind : ListKind) (index : Nat) (p : Progress) : Except Fault SelectorList :=
  if p.begun then
    let last := if kind.relative then Progress.aheadOf p.linked else p.compound ++ p.behind
    .ok (.mk kind.negated p.markup (p.done ++ [last]))
  else if kind.forgiving && (p.done.isEmpty || p.chain.isEmpty) then
    .ok (.mk kind.negated p.markup (p.done ++ [[.never]]))
  else .error (.expectedSelector index)

def tokenConditions (p : Progress) (token : Token) : Except Fault (List Condition) := do
  match token with
  | .nesting => return [.state .scope]
  | .identifier name => return [.identifier (← nameText name)]
  | .className name => return [.className (← nameText name)]
  | .name space name =>
    let space ← space.mapM nameText
    let name ← nameText name
    return [.name space (if name = "*" then none else some (lowerBasic name))]
  | .attribute text =>
    let (condition, excluded) ← readAttribute text
    return [if excluded then negation condition else condition]
  | .contains name values =>
    let own := (← pseudoName name) == ":-soup-contains-own"
    let texts ← (valuesIn (← decode false values)).mapM valueText
    return [.contains (textPart p.compound own) texts]
  | .language values => return [.language (← (valuesIn values).mapM valueText)]
  | .direction leftToRight => return [.direction leftToRight]
  | _ => return []

/-- What a token does to the list that is being read. -/
inductive Move where
  | stop (fault : Fault)
  | go (next : Progress)
  /-- A list inside of parentheses begins, and this is what is made of it. -/
  | enter (inner : ListKind) (make : SelectorList → List Condition)
  /-- The list ends with the parenthesis that closes it. -/
  | leave (list : SelectorList)

namespace Move

/-- A move that needs a result of its token, and stops if there is none. -/
def ofResult {α : Type} (next : α → Move) : Except Fault α → Move
  | .error e => stop e
  | .ok a => next a

/-- What the decoded name of a class of elements does, if it has no grammar of its own. -/
def ofName (known : String) (opened : Bool) (p : Progress) (start : Nat) : Move :=
  match opened, ListKind.ofName? known, simpleConditions? known with
  | true, some inner, _ => enter inner fun list => [.list list]
  | false, _, some conditions =>
    let p := if known = ":defined" then { p with markup := true } else p
    go (p.add conditions)
  | _, _, _ =>
    if opened && idleLists.contains known then enter .nested fun _ => [.never]
    else if isKnown known then stop (.badArgument known start)
    else stop (.unknownName known start)

/-- A place by a formula; it may count only the siblings that are in a list of their own. -/
def ofPlace (sameName restricted : Bool) (p : Progress) (known : Codes)
    (formula : Option Int × Int) : Move :=
  let fromEnd := [":nth-last-child", ":nth-last-of-type"].contains (Codes.shown known)
  let place : Position := ⟨formula.1, formula.2, sameName, fromEnd⟩
  if restricted then enter .nested fun list => [.position place (some list)]
  else go (p.add [.position place none])

end Move

/-- The move of a token; `index` is the end of the token before it. -/
def move (kind : ListKind) (p : Progress) (index : Nat) (t : Placed) : Move :=
  match t.token with
  | .atRule => .stop (.atRule t.start)
  | .pseudoElement => .stop (.pseudoElement t.start)
  | .custom name =>
    .ofResult (fun known => .stop (.undefinedCustom (Codes.shown known) t.stop)) (pseudoName name)
  | .close =>
    if !p.begun && !kind.forgiving then .stop (.expectedSelector t.start)
    else if kind.opened then .ofResult .leave (close kind index p)
    else .stop (.unmatchedClose t.start)
  | .combinator c => .ofResult .go (step kind index c p)
  | .pseudo name opened =>
    .ofResult (fun known => .ofName (Codes.shown known) opened p t.start) (pseudoName name)
  | .place name formula sameName restricted =>
    .ofResult (fun known =>
        .ofResult (.ofPlace sameName restricted p known) (readFormula (lowerBasic formula)))
      (pseudoName name)
  | .name .. =>
    if p.begun then .stop (.lateName t.start)
    else .ofResult (fun conditions => .go (p.add conditions)) (tokenConditions p t.token)
  | .direction leftToRight => .go { p.add [.direction leftToRight] with markup := true }
  | other => .ofResult (fun conditions => .go (p.add conditions)) (tokenConditions p other)

/-- Read a list of selectors from its tokens; `fault` is what is wrong behind the last of them and
`index` the end of the token before them. The tokens behind the list are left over. -/
def readList (fault : Option Fault) (kind : ListKind) (p : Progress) (index : Nat)
    (tokens : List Placed) : Except Fault (SelectorList × List Placed) :=
  match tokens with
  | [] =>
    match fault with
    | some e => .error e
    | none =>
      if kind.opened then .error (.unclosed index)
      else (close kind index p).map fun list => (list, [])
  | t :: rest =>
    match move kind p index t with
    | .stop e => .error e
    | .go next => readList fault kind next t.stop rest
    | .leave list => .ok (list, rest)
    | .enter inner make =>
      match readList fault inner .start t.stop rest with
      | .error e => .error e
      | .ok (list, others) =>
        if others.length ≤ rest.length then
          readList fault kind (p.add (make list)) t.stop others
        else .error (.unclosed t.stop)
termination_by tokens.length

def sourceCodes (selector : String) : Codes := Codes.ofChars (sourceChars selector)

def read (selector : String) : Except Fault SelectorList :=
  let found := tokens (sourceCodes selector)
  (readList found.fault .outermost .start 0 found.list).map (·.1)

end PageCheck.Selector
