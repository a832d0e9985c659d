import PageCheck.Predicate.Basic
import PageCheck.Predicate.Call
import PageCheck.Predicate.Error

/-!
# Reading predicates and specifications

The reader works on calls, from the outside in. What it accepts is well-formed: an element
predicate under `readElement`, a page predicate under `readSite`. Parsing is reading, with the error
raised at the end.
-/

namespace PageCheck

namespace Predicate

/-- The number of negations inside each other that is allowed where nothing else is asked for. -/
def defaultLimit : Int := 32

/-- A literal without the single quotes around it. Quotes around nothing are kept. -/
def unquote (s : List Char) : List Char :=
  match s with
  | '\'' :: rest =>
    match rest.reverse with
    | '\'' :: inner => if inner.isEmpty then s else inner.reverse
    | _ => s
  | _ => s

def literal (s : List Char) : String := String.ofList (unquote s)

def failure (fault : ParseFault) (text : List Char) : ParseError :=
  ⟨fault, String.ofList text, none⟩

/-- Read an element predicate that stands under `depth` negations. -/
def readElement (limit : Int) (depth : Nat) (text : List Char) : Except ParseError Predicate :=
  match h : Call.read? text with
  | none => .error (failure .call text)
  | some ⟨name, args⟩ =>
    match args, h with
    | [arg], h =>
      if name = "content_matches".toList then .ok (contentMatches (literal arg))
      else if name = "not".toList then
        if limit ≤ depth then .error (failure (.nesting limit) text)
        else (readElement limit (depth + 1) arg).map negation
      else .error (failure .elementPredicate text)
    | _, _ => .error (failure .elementPredicate text)
termination_by text.length
decreasing_by exact Call.length_arg_lt h (by simp)

def readSite (limit : Int) (text : List Char) : Except ParseError Predicate :=
  match Call.read? text with
  | none => .error (failure .call text)
  | some ⟨name, [selector, element]⟩ =>
    if name = "element_matches".toList then
      (readElement limit 0 element).map (elementMatches (literal selector))
    else .error (failure .sitePredicate text)
  | some _ => .error (failure .sitePredicate text)

def parseElement (limit : Int) (text : List Char) : Except ParseStop Predicate :=
  (readElement limit 0 text).mapError ParseError.raise

def parseSite (limit : Int) (text : List Char) : Except ParseStop Predicate :=
  (readSite limit text).mapError ParseError.raise

theorem isElement_of_readElement {limit : Int} {depth : Nat} {text : List Char} {p : Predicate}
    (h : readElement limit depth text = .ok p) : p.IsElement := by
  fun_induction readElement limit depth text generalizing p with
  | case2 => cases h; trivial
  | case4 depth text arg =>
    rename_i ih
    cases hsub : readElement limit (depth + 1) arg with
    | error e => rw [hsub] at h; cases h
    | ok q =>
      rw [hsub] at h
      cases h
      have hq := ih hsub
      exact hq
  | _ => cases h

end Predicate

namespace Spec

/-- Read one line: a URL, a bar and a page predicate. Errors carry the number of the line. -/
def read (limit : Int) (number : Option Int) (line : List Char) : Except ParseError Spec :=
  match Text.splitAt '|' line with
  | [url, predicate] =>
    match Predicate.readSite limit predicate with
    | .ok p => .ok ⟨String.ofList url, p⟩
    | .error e => .error { e with line := number }
  | _ => .error ⟨.spec, String.ofList line, number⟩

def parse (limit : Int) (number : Option Int) (line : List Char) : Except ParseStop Spec :=
  (read limit number line).mapError ParseError.raise

end Spec

end PageCheck
