import PageCheck.Html.Document
import PageCheck.Html.Token.Scan

/-!
# Building documents

Tokens are folded into a stack of open elements. No element is ever closed for the sake of another
one: an end tag closes the innermost open element of its name with all that is open inside it, and
is ignored if there is none. White space alone is reduced to one character.
-/

namespace PageCheck.Html

open Text (Code Codes)

def voidElements : List String :=
  ["area", "base", "br", "col", "embed", "hr", "img", "input", "keygen", "link", "menuitem",
    "meta", "param", "source", "track", "wbr", "basefont", "bgsound", "command", "frame", "image",
    "isindex", "nextid", "spacer"]

/-- Elements in which white space is left alone. -/
def spacedElements : List String := ["pre", "textarea"]

/-- Attributes whose value is a list of words: the element, or nothing for any, and the names. -/
def wordLists : List (String × List String) :=
  [("", ["class", "accesskey", "dropzone"]), ("a", ["rel", "rev"]), ("link", ["rel", "rev"]),
    ("td", ["headers"]), ("th", ["headers"]), ("form", ["accept-charset"]),
    ("object", ["archive"]), ("area", ["rel"]), ("icon", ["sizes"]), ("iframe", ["sandbox"]),
    ("output", ["for"])]

def isWordList (element key : String) : Bool :=
  wordLists.any fun (name, keys) => (name == "" || name == element) && keys.contains key

def words (s : List Char) : List (List Char) :=
  match s with
  | [] => []
  | c :: rest =>
    if Text.isBlank c then words rest
    else (c :: rest.takeWhile (!Text.isBlank ·)) :: words (rest.dropWhile (!Text.isBlank ·))
termination_by s.length
decreasing_by
  · simp
  · have := (List.dropWhile_sublist (!Text.isBlank ·) (l := rest)).length_le
    simp only [List.length_cons]
    omega

def keptValue (element key : String) (value : List Char) : String :=
  if isWordList element key then String.ofList ((words value).intersperse [' ']).flatten
  else String.ofList value

/-- An open element; its children so far, last first. -/
structure Frame where
  name : String
  attributes : List (String × String)
  before : List Node

structure Builder where
  /-- The open elements, innermost first. -/
  frames : List Frame
  /-- The finished nodes outside all of them, last first. -/
  top : List Node
  /-- The text since the last node. -/
  pending : Codes
  /-- The elements without content that still may get an end tag of their own. -/
  ended : List String

namespace Builder

def empty : Builder := ⟨[], [], [], []⟩

def add (b : Builder) (node : Node) : Builder :=
  match b.frames with
  | [] => { b with top := node :: b.top }
  | f :: rest => { b with frames := { f with before := node :: f.before } :: rest }

def isReducible (c : Code) : Bool :=
  c == ' ' || c == '\n' || c == '\t' || c == '\x0c' || c == '\r'

/-- White space alone becomes a line feed if it holds one, else a space. -/
def reduce (s : Codes) : Codes :=
  if s.all isReducible then (if s.contains '\n' then ['\n'] else [' ']) else s

def keepsSpace (b : Builder) : Bool := b.frames.any fun f => spacedElements.contains f.name

def content (b : Builder) (s : Codes) : Codes := if b.keepsSpace then s else reduce s

def kindHere (b : Builder) : StringKind :=
  match b.frames.find? fun f => keepers.contains f.name with
  | some f => .kept f.name
  | none => .plain

def flush (b : Builder) : Builder :=
  if b.pending.isEmpty then b
  else { b.add (.string b.kindHere (b.content b.pending)) with pending := [] }

def closeOne (b : Builder) : Builder :=
  match b.frames with
  | [] => b
  | f :: rest => { b with frames := rest }.add (.element f.name f.attributes f.before.reverse)

/-- Close the innermost element with the given name and all inside it. -/
def closeTo (b : Builder) (name : String) : Builder :=
  if b.frames.any (·.name == name) then
    let inside := (b.frames.takeWhile (·.name != name)).length
    Nat.repeat closeOne (inside + 1) b
  else b

/-- An end tag that stands in the text or ends a tag that closes itself. -/
def finish (b : Builder) (name : String) : Builder :=
  if b.ended.contains name then { b with ended := b.ended.erase name }
  else b.flush.closeTo name

def start (b : Builder) (tag : Tag) : Builder :=
  let name := String.ofList tag.name
  let attributes := tag.attributes.map fun (key, value) =>
    (String.ofList key, keptValue name (String.ofList key) value)
  let b := b.flush
  let b := { b with frames := ⟨name, attributes, []⟩ :: b.frames }
  if tag.closed then b.closeTo name
  else if voidElements.contains name then
    let b := b.closeTo name
    { b with ended := b.ended ++ [name] }
  else b

def noteKind : NoteKind → StringKind
  | .comment => .comment
  | .doctype => .doctype
  | .instruction => .instruction
  | .declaration => .declaration
  | .characterData => .characterData

def step (b : Builder) : Token → Builder
  | .text s => { b with pending := b.pending ++ Codes.ofChars s }
  | .half index => { b with pending := b.pending ++ [.half index] }
  | .start tag => b.start tag
  | .finish name => b.finish (String.ofList name)
  | .note kind s =>
    let b := b.flush
    b.add (.string (noteKind kind) (b.content (Codes.ofChars s)))

/-- The finished document, with all that is still open closed. -/
def close (b : Builder) : Document :=
  let b := b.flush
  ⟨(Nat.repeat closeOne b.frames.length b).top.reverse⟩

end Builder

namespace Document

def ofTokens (tokens : List Token) : Document := (tokens.foldl Builder.step .empty).close

def read (text : String) : Except Fault Document := (Token.ofText text.toList).map ofTokens

end Document

end PageCheck.Html
