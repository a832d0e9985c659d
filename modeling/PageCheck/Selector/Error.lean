import PageCheck.Text.Quoted

/-!
# Errors of selectors

An error of the grammar shows the selector with a mark under the place where it was found. Besides
these there are constructs that are known but not supported, and numbers that cannot be read.
-/

namespace PageCheck.Selector

open Text (Code Codes)

/-- What is wrong with a selector. Offsets count characters from its beginning. -/
inductive Fault where
  | expectedSelector (offset : Nat)
  | unclosed (offset : Nat)
  | unmatchedClose (offset : Nat)
  | lateName (offset : Nat)
  | leadingCombinator (combinator : String) (offset : Nat)
  | doubleCombinator (offset : Nat)
  | badArgument (name : String) (offset : Nat)
  | unknownName (name : String) (offset : Nat)
  | undefinedCustom (name : String) (offset : Nat)
  | malformed (part : String) (offset : Nat)
  | badCharacter (c : Code) (offset : Nat)
  | atRule (offset : Nat)
  | pseudoElement (offset : Nat)
  /-- An escape with a number that no character has. -/
  | escapeRange
  /-- An escape with a comment right behind its number, which cannot be read with it. -/
  | escapeComment (text : Codes)
  | longNumber (digits : Nat)
deriving DecidableEq, Repr

/-- The sorts of faults: errors of the grammar, constructs that are not supported, and numbers out
of range. -/
inductive FaultSort where
  | grammar
  | unsupported
  | number
deriving DecidableEq, Repr

namespace Fault

def sort : Fault → FaultSort
  | atRule _ => .unsupported
  | pseudoElement _ => .unsupported
  | escapeRange => .number
  | escapeComment _ => .number
  | longNumber _ => .number
  | _ => .grammar

def describe : Fault → String
  | expectedSelector offset => "Expected a selector at position " ++ toString offset
  | unclosed offset => "Unclosed pseudo-class at position " ++ toString offset
  | unmatchedClose offset => "Unmatched pseudo-class close at position " ++ toString offset
  | lateName offset =>
    "Tag name found at position " ++ toString offset ++ " instead of at the start"
  | leadingCombinator combinator offset =>
    "The combinator '" ++ combinator ++ "' at position " ++ toString offset ++
      ", must have a selector before it"
  | doubleCombinator offset => "The multiple combinators at position " ++ toString offset
  | badArgument name _ => "Invalid syntax for pseudo class '" ++ name ++ "'"
  | unknownName name _ =>
    "'" ++ name ++ "' was detected as a pseudo-class and is either unsupported or invalid. " ++
      "If the syntax was not intended to be recognized as a pseudo-class, please escape the colon."
  | undefinedCustom name offset =>
    "Undefined custom selector '" ++ name ++ "' found at position " ++ toString offset
  | malformed part offset => "Malformed " ++ part ++ " selector at position " ++ toString offset
  | badCharacter c offset =>
    "Invalid character " ++ String.ofList (Text.quotedCodes [c]) ++ " position " ++ toString offset
  | atRule offset => "At-rules found at position " ++ toString offset
  | pseudoElement offset => "Pseudo-element found at position " ++ toString offset
  | escapeRange => "chr() arg not in range(0x110000)"
  | escapeComment text =>
    "invalid literal for int() with base 16: " ++
      String.ofList ((Text.quotedCodes text).take 200)
  | longNumber digits => Text.longNumberMessage (some digits)

def offset : Fault → Nat
  | expectedSelector n | unclosed n | unmatchedClose n | lateName n | leadingCombinator _ n
  | doubleCombinator n | badArgument _ n | unknownName _ n | undefinedCustom _ n | malformed _ n
  | badCharacter _ n | atRule n | pseudoElement n => n
  | escapeRange | escapeComment _ | longNumber _ => 0

end Fault

/-- A line of a selector with the length of its terminator. -/
structure SourceLine where
  text : List Char
  ending : Nat

/-- The lines of a selector. The last one has no terminator, and may be empty. -/
def sourceLines : List Char → List SourceLine
  | [] => [⟨[], 0⟩]
  | '\r' :: '\n' :: rest => ⟨[], 2⟩ :: sourceLines rest
  | c :: rest =>
    if c = '\n' || c = '\r' then ⟨[], 1⟩ :: sourceLines rest
    else match sourceLines rest with
      | [] => [⟨[c], 0⟩]
      | line :: others => { line with text := c :: line.text } :: others

def spaces (n : Nat) : List Char := List.replicate n ' '

/-- The shown lines, each below the one before; the number of the line with the mark, if it has
been passed; and the number of the current one. -/
def showLines (offset : Nat) : Nat → Nat → List SourceLine → List (List Char) × Option Nat
  | _, _, [] => ([], none)
  | start, number, line :: rest =>
    let stop := start + line.text.length + line.ending
    let (others, marked) := showLines offset stop (number + 1) rest
    if start ≤ offset && offset < stop then
      let back := if start + line.text.length < offset then 1 else 0
      ((("--> ".toList ++ line.text)) :: (spaces (offset - start + 4 - back) ++ ['^']) :: others,
        some number)
    else ((spaces 4 ++ line.text) :: others, marked)

/-- The selector with a mark at an offset, and the number of the marked line. -/
def showSource (source : List Char) (offset : Nat) : List Char × Nat :=
  match sourceLines source with
  | [line] => (line.text ++ '\n' :: spaces offset ++ ['^'], 1)
  | lines =>
    let (shown, marked) := showLines offset 0 1 lines
    ((shown.intersperse ['\n']).flatten, marked.getD 1)

/-- The character that stands for one that no selector may hold. -/
def replaceNull (c : Char) : Char := if c = '\x00' then '\uFFFD' else c

def sourceChars (selector : String) : List Char := selector.toList.map replaceNull

def Fault.message (selector : String) (fault : Fault) : String :=
  match fault.sort with
  | .grammar =>
    let (shown, line) := showSource (sourceChars selector) fault.offset
    fault.describe ++ "\n  line " ++ toString line ++ ":\n" ++ String.ofList shown
  | _ => fault.describe

end PageCheck.Selector
