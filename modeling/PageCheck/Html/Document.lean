import PageCheck.Text.Blank
import PageCheck.Text.Code

/-!
# Documents

A document is an ordered forest of elements and strings. A string remembers what kind of markup it
was: comments and the like are no part of any text, and the strings inside a few elements belong to
the text of those elements only.
-/

namespace PageCheck.Html

open Text (Code Codes)

inductive StringKind where
  | plain
  | characterData
  /-- Inside an element that keeps its strings to itself. -/
  | kept (keeper : String)
  | comment
  | doctype
  | instruction
  | declaration
deriving DecidableEq, Repr

inductive Node where
  | string (kind : StringKind) (content : Codes)
  | element (name : String) (attributes : List (String × String)) (children : List Node)
deriving Inhabited, Repr

structure Document where
  children : List Node
deriving Inhabited

/-- Elements whose strings belong to no text but their own. -/
def keepers : List String := ["rt", "rp", "style", "script", "template"]

namespace StringKind

def countsFor (name : String) (kind : StringKind) : Bool :=
  if keepers.contains name then kind == kept name
  else kind == plain || kind == characterData

/-- Whether a string is content rather than markup of another sort. -/
def isContent : StringKind → Bool
  | plain => true
  | kept _ => true
  | _ => false

end StringKind

namespace Node

mutual

/-- The strings of the given kinds in a node, in document order. -/
def strings (wanted : StringKind → Bool) : Node → List Codes
  | string kind content => if wanted kind then [content] else []
  | element _ _ children => stringsOf wanted children

def stringsOf (wanted : StringKind → Bool) : List Node → List Codes
  | [] => []
  | node :: rest => strings wanted node ++ stringsOf wanted rest

end

/-- The text of a node: all the strings that count for it, one after the other. -/
def text : Node → Codes
  | string _ content => content
  | element name _ children => (stringsOf (StringKind.countsFor name) children).flatten

end Node

namespace Document

def text (d : Document) : Codes :=
  (Node.stringsOf (StringKind.countsFor "") d.children).flatten

end Document

end PageCheck.Html
