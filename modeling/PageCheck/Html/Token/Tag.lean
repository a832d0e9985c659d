import PageCheck.Html.Entity
import PageCheck.Html.Token
import PageCheck.Text.Behind
import PageCheck.Text.Case

/-!
# Reading start tags

A tag is a name, attributes and an end. An attribute can begin after a blank, a slash or a quote.
A value that begins with a quote needs the closing one; if that is missing, the value is empty when
blanks stood before the quote, takes in the last of several equals signs, or is no value at all.
-/

namespace PageCheck.Html.Tag

open Text (isBlank)

def isLetter (c : Char) : Bool := c.isAlpha

def isNameChar (c : Char) : Bool :=
  !(c == '\t' || c == '\n' || c == '\r' || c == '\x0c' || c == ' ' || c == '/' || c == '>' ||
    c == '\x00')

def isAttributeChar (c : Char) : Bool := !(isBlank c || c == '/' || c == '=' || c == '>')

def isAttributeStart (c : Char) : Bool := !(isBlank c || c == '/' || c == '>')

def isBareChar (c : Char) : Bool := !(isBlank c || c == '>')

/-- Drop blanks, and slashes that do not end the tag. -/
def skipGap : List Char → List Char
  | [] => []
  | '/' :: '>' :: rest => '/' :: '>' :: rest
  | c :: rest => if isBlank c || c == '/' then skipGap rest else c :: rest

theorem skipGap_suffix (s : List Char) : skipGap s <:+ s := by
  fun_induction skipGap s with
  | case1 => exact List.suffix_rfl
  | case2 => exact List.suffix_rfl
  | case3 c rest _ _ ih => exact ih.trans (List.suffix_cons _ _)
  | case4 => exact List.suffix_rfl

/-- A value between quotes: what stands between them and the rest. -/
def quotedValue? (quote : Char) (s : List Char) : Option (List Char × List Char) :=
  match s.dropWhile (· != quote) with
  | _ :: rest => some (s.takeWhile (· != quote), rest)
  | [] => none

/-- The value after the name of an attribute, the rest, and whether a quote or a blank stands
before the rest. -/
def value? (s : List Char) : Option (List Char × List Char × Bool) :=
  let signs := s.dropWhile isBlank
  match signs with
  | '=' :: _ =>
    let spaced := signs.dropWhile (· == '=')
    let body := spaced.dropWhile isBlank
    let bare := (body.takeWhile isBareChar, body.dropWhile isBareChar, false)
    match body with
    | c :: inner =>
      if c = '\'' || c = '"' then
        match quotedValue? c inner with
        | some (v, rest) => some (v, rest, true)
        | none =>
          if body.length < spaced.length then some ([], body, true)
          else if 2 ≤ (signs.takeWhile (· == '=')).length then
            some ('=' :: body.takeWhile isBareChar, body.dropWhile isBareChar, false)
          else none
      else some bare
    | [] => some bare
  | _ => none

theorem quotedValue?_suffix {quote : Char} {s v rest : List Char}
    (h : quotedValue? quote s = some (v, rest)) : rest <:+ s := by
  unfold quotedValue? at h
  split at h
  · rename_i c tail hTail
    cases h
    exact (hTail ▸ List.suffix_cons c rest).trans (List.dropWhile_suffix _)
  · cases h

theorem value?_suffix {s v rest : List Char} {ready : Bool} (h : value? s = some (v, rest, ready)) :
    rest <:+ s := by
  have hSigns : s.dropWhile Text.isBlank <:+ s := List.dropWhile_suffix _
  have hBody := ((List.dropWhile_suffix Text.isBlank).trans
    (List.dropWhile_suffix (l := s.dropWhile Text.isBlank) (· == '='))).trans hSigns
  have hBare := (List.dropWhile_suffix isBareChar).trans hBody
  simp only [value?] at h
  split at h
  · split at h
    · rename_i c inner hInner
      split at h
      · split at h
        · rename_i hQuoted
          cases h
          exact ((quotedValue?_suffix hQuoted).trans (hInner ▸ List.suffix_cons c inner)).trans hBody
        · split at h
          · cases h
            exact hBody
          · split at h <;> cases h
            exact hBare
      · cases h
        exact hBare
    · cases h
      exact hBare
  · cases h

def endsInQuote (s : List Char) : Bool :=
  match s.getLast? with
  | some c => c == '\'' || c == '"'
  | none => false

structure RawAttribute where
  name : List Char
  value : Option (List Char)

/-- One attribute at the front of a text, the rest behind the gap that follows it, and whether
another attribute can begin there. -/
def readAttribute? (s : List Char) : Option (RawAttribute × List Char × Bool) :=
  match s with
  | c :: more =>
    if isAttributeStart c then
      let name := c :: more.takeWhile isAttributeChar
      let after := more.dropWhile isAttributeChar
      let (value, rest, ready) : Option (List Char) × List Char × Bool :=
        match value? after with
        | some (v, rest, ready) => (some v, rest, ready || endsInQuote v)
        | none => (none, after, endsInQuote name)
      let next := skipGap rest
      some (⟨name, value⟩, next, ready || next.length < rest.length)
    else none
  | [] => none

theorem readAttribute?_behind {s rest : List Char} {a : RawAttribute} {ready : Bool}
    (h : readAttribute? s = some (a, rest, ready)) : Text.IsBehind rest s := by
  unfold readAttribute? at h
  split at h
  · rename_i c more
    have hAfter : more.dropWhile isAttributeChar <:+ more := List.dropWhile_suffix _
    split at h
    · cases h
      refine ⟨c, more, rfl, (skipGap_suffix _).trans ?_⟩
      split
      · rename_i hValue
        exact (value?_suffix hValue).trans hAfter
      · exact hAfter
    · cases h
  · cases h

theorem length_readAttribute?_lt {s rest : List Char} {a : RawAttribute} {ready : Bool}
    (h : readAttribute? s = some (a, rest, ready)) : rest.length < s.length :=
  (readAttribute?_behind h).length_lt

def readAttributes (ready : Bool) (s : List Char) : List RawAttribute × List Char :=
  if ready then
    match h : readAttribute? s with
    | some (a, rest, ready) =>
      have := length_readAttribute?_lt h
      let (others, rest) := readAttributes ready rest
      (a :: others, rest)
    | none => ([], s)
  else ([], s)
termination_by s.length

theorem readAttributes_suffix (ready : Bool) (s : List Char) : (readAttributes ready s).2 <:+ s := by
  fun_induction readAttributes ready s with
  | case1 s a rest ready hFound hShort others last hOthers ih =>
    rw [hOthers] at ih
    exact ih.trans (readAttribute?_behind hFound).suffix
  | case2 => exact List.suffix_rfl
  | case3 => exact List.suffix_rfl

/-- What a less-than sign before a letter begins. -/
inductive Reading where
  | tag (tag : Tag) (rest : List Char)
  /-- The tag breaks off at a character that cannot stand there. -/
  | broken (rest : List Char)
  /-- The text ends before the tag does. -/
  | unfinished

/-- A later attribute replaces the value of an earlier one with the same name. -/
def setAttribute (attributes : List (List Char × List Char)) (name value : List Char) :
    List (List Char × List Char) :=
  if attributes.any (·.1 == name) then
    attributes.map fun (key, old) => if key == name then (key, value) else (key, old)
  else attributes ++ [(name, value)]

def decodeAttributes : List (List Char × List Char) → List RawAttribute →
    Except Fault (List (List Char × List Char))
  | done, [] => .ok done
  | done, a :: rest =>
    match Entity.decodeValue (a.value.getD []) with
    | .error e => .error e
    | .ok v => decodeAttributes (setAttribute done (Text.lower a.name) v) rest

def Reading.rest : Reading → List Char
  | .tag _ rest => rest
  | .broken rest => rest
  | .unfinished => []

/-- Read the tag that begins with the letter at the front of the text. -/
def read (s : List Char) : Except Fault Reading :=
  let name := s.takeWhile isNameChar
  let after := s.dropWhile isNameChar
  let gap := skipGap after
  let (raw, rest) := readAttributes (gap.length < after.length || endsInQuote name) gap
  let build (closed : Bool) (rest : List Char) : Except Fault Reading :=
    (decodeAttributes [] raw).map fun attributes =>
      .tag ⟨Text.lower name, attributes, closed⟩ rest
  match rest with
  | '>' :: rest => build false rest
  | '/' :: '>' :: rest => build true rest
  | [] => .ok .unfinished
  | c :: _ =>
    if c == '=' || c == '/' || isLetter c then .ok .unfinished
    else (decodeAttributes [] raw).map fun _ => .broken rest

theorem exists_of_map_eq_ok {α β : Type} {f : α → β} {x : Except Fault α} {b : β}
    (h : x.map f = .ok b) : ∃ a, x = .ok a ∧ f a = b := by
  cases x with
  | error fault => cases h
  | ok a =>
    cases h
    exact ⟨a, rfl, rfl⟩

theorem read_suffix {s : List Char} {r : Reading} (h : read s = .ok r) : r.rest <:+ s := by
  have hAttributes := (readAttributes_suffix
    ((skipGap (s.dropWhile isNameChar)).length < (s.dropWhile isNameChar).length ||
      endsInQuote (s.takeWhile isNameChar)) (skipGap (s.dropWhile isNameChar))).trans
    ((skipGap_suffix _).trans (List.dropWhile_suffix isNameChar))
  unfold read at h
  simp only at h
  split at h
  · rename_i rest hRest
    obtain ⟨attributes, _, rfl⟩ := exists_of_map_eq_ok h
    exact (hRest ▸ List.suffix_cons '>' rest).trans hAttributes
  · rename_i rest hRest
    obtain ⟨attributes, _, rfl⟩ := exists_of_map_eq_ok h
    exact ((List.suffix_cons '>' rest).trans (hRest ▸ List.suffix_cons '/' _)).trans hAttributes
  · cases h
    exact List.nil_suffix
  · split at h
    · cases h
      exact List.nil_suffix
    · obtain ⟨attributes, _, rfl⟩ := exists_of_map_eq_ok h
      exact hAttributes

end PageCheck.Html.Tag
