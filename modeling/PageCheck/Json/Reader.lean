import PageCheck.Json.Error
import PageCheck.Text.Digit
import PageCheck.Value

/-!
# Reading JSON

Every reader returns what it read and the rest of the text, which is shorter. Besides the standard
grammar the names of infinity and of the missing number are read. A later member replaces the
value of an earlier one with the same name and stays in its place.
-/

namespace PageCheck.Json

/-- What was read from the front of `s`, with a rest that is shorter than `s`. -/
abbrev Step (s : List Char) (α : Type) := Except Stop (α × { r : List Char // r.length < s.length })

def stop {α : Type} (fault : Fault) (place : List Char) : Except Stop α := .error ⟨fault, place.length⟩

def isSpace (c : Char) : Bool := c == ' ' || c == '\t' || c == '\n' || c == '\r'

def skip (s : List Char) : List Char := s.dropWhile isSpace

theorem length_skip_le (s : List Char) : (skip s).length ≤ s.length :=
  (List.dropWhile_sublist _).length_le

theorem length_after_skip {s rest : List Char} {c : Char} (h : skip s = c :: rest) :
    rest.length < s.length := by
  have := length_skip_le s
  rw [h, List.length_cons] at this
  omega

/-- The code unit that four digits to base sixteen stand for. -/
def codeUnit? (a b c d : Char) : Option Nat :=
  if [a, b, c, d].all Text.isHexDigit then some (Text.numeral 16 [a, b, c, d]) else none

def shortEscape? (c : Char) : Option Char :=
  if c = '"' ∨ c = '\\' ∨ c = '/' then some c
  else if c = 'b' then some (Char.ofNat 8)
  else if c = 'f' then some (Char.ofNat 12)
  else if c = 'n' then some '\n'
  else if c = 'r' then some '\r'
  else if c = 't' then some '\t'
  else none

/-- Two surrogates in a row become the character they encode together. -/
def joinSurrogates : List Nat → List Nat
  | high :: low :: rest =>
    if 0xD800 ≤ high ∧ high ≤ 0xDBFF ∧ 0xDC00 ≤ low ∧ low ≤ 0xDFFF then
      (0x10000 + (high - 0xD800) * 0x400 + (low - 0xDC00)) :: joinSurrogates rest
    else high :: joinSurrogates (low :: rest)
  | rest => rest

/-- The code units of a string up to its closing quote, and the rest after that quote. `opening`
is the text from the opening quote on. -/
def readUnits (opening : List Char) : List Char → Except Stop (List Nat × List Char)
  | [] => stop .unterminatedString opening
  | '"' :: rest => .ok ([], rest)
  | ['\\'] => stop .unterminatedString opening
  | '\\' :: 'u' :: a :: b :: c :: d :: next :: rest =>
    match codeUnit? a b c d with
    | none => stop .unicodeEscape ('u' :: a :: b :: c :: d :: next :: rest)
    | some unit => do
      let (units, rest) ← readUnits opening (next :: rest)
      pure (unit :: units, rest)
  | '\\' :: c :: rest =>
    if c = 'u' then stop .unicodeEscape (c :: rest)
    else match shortEscape? c with
      | none => stop .escape ('\\' :: c :: rest)
      | some e => do
        let (units, rest) ← readUnits opening rest
        pure (e.toNat :: units, rest)
  | c :: rest =>
    if c.toNat < 0x20 then stop .controlCharacter (c :: rest)
    else do
      let (units, rest) ← readUnits opening rest
      pure (c.toNat :: units, rest)

theorem length_of_readUnits {opening s rest : List Char} {units : List Nat}
    (h : readUnits opening s = .ok (units, rest)) : rest.length < s.length := by
  fun_induction readUnits opening s generalizing units rest with
  | case2 tail => cases h; simp
  | case5 a b c d next tail unit hunit ih =>
    cases hread : readUnits opening (next :: tail) with
    | error e => rw [hread] at h; cases h
    | ok p =>
      rw [hread] at h
      cases h
      have := ih hread
      simp only [List.length_cons] at *
      omega
  | case8 c tail _ _ e he ih =>
    cases hread : readUnits opening tail with
    | error e => rw [hread] at h; cases h
    | ok p =>
      rw [hread] at h
      cases h
      have := ih hread
      simp only [List.length_cons] at *
      omega
  | case10 c tail _ _ _ _ _ ih =>
    cases hread : readUnits opening tail with
    | error e => rw [hread] at h; cases h
    | ok p =>
      rw [hread] at h
      cases h
      have := ih hread
      simp only [List.length_cons] at *
      omega
  | _ => cases h

/-- Read a string whose opening quote has been read. -/
def readString (opening s : List Char) : Step s Value :=
  match h : readUnits opening s with
  | .error e => .error e
  | .ok (units, rest) => .ok (Value.ofCodes (joinSurrogates units), ⟨rest, length_of_readUnits h⟩)

def digitRun (s : List Char) : List Char × List Char :=
  (s.takeWhile Char.isDigit, s.dropWhile Char.isDigit)

def fraction (s : List Char) : List Char × List Char :=
  match s with
  | '.' :: rest =>
    match digitRun rest with
    | ([], _) => ([], s)
    | run => run
  | _ => ([], s)

/-- The power of ten after a mark, if it has digits. -/
def power? (s : List Char) : Option Int × List Char :=
  match s with
  | c :: rest =>
    if c = 'e' ∨ c = 'E' then
      let (negative, body) := match rest with
        | '-' :: body => (true, body)
        | '+' :: body => (false, body)
        | body => (false, body)
      match digitRun body with
      | ([], _) => (none, s)
      | (digits, after) =>
        let n : Int := Text.numeral 10 digits
        (some (if negative then -n else n), after)
    else (none, s)
  | [] => (none, s)

/-- A number: whole unless it has a fraction or a power of ten. -/
def number (negative : Bool) (s : List Char) : Except Stop (Value × List Char) :=
  let whole := match s with
    | '0' :: rest => (['0'], rest)
    | _ => digitRun s
  if whole.1.isEmpty then stop .value s
  else
    let (decimals, afterPoint) := fraction whole.2
    let (power, rest) := power? afterPoint
    if decimals.isEmpty ∧ power.isNone then
      if Text.digitLimit < whole.1.length then stop (.longNumber whole.1.length) s
      else
        let n : Int := Text.numeral 10 whole.1
        .ok (.int (if negative then -n else n), rest)
    else
      .ok (.real (Binary64.ofDecimal negative (Text.numeral 10 (whole.1 ++ decimals))
        (power.getD 0 - decimals.length)), rest)

def after? (word s : List Char) : Option (List Char) :=
  if word.isPrefixOf s then some (s.drop word.length) else none

def names : List (List Char × Value) :=
  [("null".toList, .null), ("true".toList, .bool true), ("false".toList, .bool false),
    ("NaN".toList, .real .nan), ("Infinity".toList, .real (.infinite false)),
    ("-Infinity".toList, .real (.infinite true))]

def atom (s : List Char) : Except Stop (Value × List Char) :=
  match names.findSome? fun (word, v) => (after? word s).map (v, ·) with
  | some found => .ok found
  | none =>
    match s with
    | '-' :: rest =>
      match number true rest with
      | .error ⟨.value, _⟩ => stop .value s
      | other => other
    | _ => number false s

/-- Read a name or a number, making sure that something has been read. -/
def readAtom (s : List Char) : Step s Value :=
  match atom s with
  | .error e => .error e
  | .ok (v, rest) =>
    if h : rest.length < s.length then .ok (v, ⟨rest, h⟩) else stop .value s

/-- Give a name its value, in its old place if it has one. -/
def setMember (members : List (Value × Value)) (name v : Value) : List (Value × Value) :=
  let same : Value → Bool := fun other => match other, name with
    | .text a, .text b => a == b
    | .brokenText a, .brokenText b => a == b
    | _, _ => false
  if members.any (same ·.1) then
    members.map fun (key, old) => if same key then (key, v) else (key, old)
  else members ++ [(name, v)]

mutual

def readValue (s : List Char) : Step s Value :=
  match s with
  | '"' :: rest =>
    match readString ('"' :: rest) rest with
    | .error e => .error e
    | .ok (v, ⟨r, h⟩) => .ok (v, ⟨r, Nat.lt_succ_of_lt h⟩)
  | '[' :: rest =>
    match hskip : skip rest with
    | ']' :: r => .ok (.list [], ⟨r, Nat.lt_succ_of_lt (length_after_skip hskip)⟩)
    | _ =>
      match readItems rest with
      | .error e => .error e
      | .ok (items, ⟨r, h⟩) => .ok (.list items, ⟨r, Nat.lt_succ_of_lt h⟩)
  | '{' :: rest =>
    match hskip : skip rest with
    | '}' :: r => .ok (.map [], ⟨r, Nat.lt_succ_of_lt (length_after_skip hskip)⟩)
    | _ =>
      match readMembers [] rest with
      | .error e => .error e
      | .ok (members, ⟨r, h⟩) => .ok (.map members, ⟨r, Nat.lt_succ_of_lt h⟩)
  | s => readAtom s
termination_by (s.length, 0)

/-- Read the items of a list up to and with its closing bracket. -/
def readItems (s : List Char) : Step s (List Value) :=
  have hs := length_skip_le s
  match readValue (skip s) with
  | .error e => .error e
  | .ok (v, ⟨r, h⟩) =>
    match hr : skip r with
    | ']' :: rest =>
      have := length_after_skip hr
      .ok ([v], ⟨rest, by omega⟩)
    | ',' :: rest =>
      have := length_after_skip hr
      match readItems rest with
      | .error e => .error e
      | .ok (items, ⟨t, ht⟩) => .ok (v :: items, ⟨t, by omega⟩)
    | other => stop .comma other
termination_by (s.length, 1)
decreasing_by
  · rcases Nat.lt_or_eq_of_le hs with h | h
    · exact Prod.Lex.left _ _ h
    · rw [h]
      exact Prod.Lex.right _ (by omega)
  · exact Prod.Lex.left _ _ (by omega)

/-- Read the members of an object up to and with its closing brace. -/
def readMembers (members : List (Value × Value)) (s : List Char) :
    Step s (List (Value × Value)) :=
  match hs : skip s with
  | '"' :: opened =>
    have := length_after_skip hs
    match readString ('"' :: opened) opened with
    | .error e => .error e
    | .ok (name, ⟨r, _⟩) =>
      match hr : skip r with
      | ':' :: valued =>
        have := length_after_skip hr
        have := length_skip_le valued
        match readValue (skip valued) with
        | .error e => .error e
        | .ok (v, ⟨t, _⟩) =>
          match ht : skip t with
          | '}' :: rest =>
            have := length_after_skip ht
            .ok (setMember members name v, ⟨rest, by omega⟩)
          | ',' :: rest =>
            have := length_after_skip ht
            match readMembers (setMember members name v) rest with
            | .error e => .error e
            | .ok (all, ⟨u, _⟩) => .ok (all, ⟨u, by omega⟩)
          | other => stop .comma other
      | other => stop .colon other
  | other => stop .propertyName other
termination_by (s.length, 1)

end

/-- Read a whole text: one value with nothing but spaces around it. -/
def read (text : List Char) : Except Stop Value :=
  match text with
  | '\uFEFF' :: _ => stop .byteOrderMark text
  | _ => do
    let (v, ⟨rest, _⟩) ← readValue (skip text)
    match skip rest with
    | [] => pure v
    | other => stop .extraData other

end PageCheck.Json
