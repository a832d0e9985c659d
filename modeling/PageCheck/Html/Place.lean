import PageCheck.Html.Document

/-!
# Places in a document

A place is an element together with all that stands around it, so that its parent, its siblings and
its position among them can be asked for. The document itself is a place too: it is the parent of
the outermost elements.
-/

namespace PageCheck.Html

inductive Place where
  | document (children : List Node)
  /-- An element in its parent. The nodes before it are listed from the nearest to the first. -/
  | element (parent : Place) (before : List Node) (name : String)
      (attributes : List (String × String)) (children : List Node) (after : List Node)

mutual

/-- The elements of a node in document order, those below an element only if it may be entered. -/
def Node.places (enter : String → Bool) (parent : Place) (before after : List Node) :
    Node → List Place
  | .string _ _ => []
  | .element name attributes children =>
    let here := Place.element parent before name attributes children after
    here :: (if enter name then placesAmong enter here [] children else [])

/-- The elements of a run of nodes in document order. -/
def placesAmong (enter : String → Bool) (parent : Place) (before : List Node) :
    List Node → List Place
  | [] => []
  | node :: rest =>
    node.places enter parent before rest ++ placesAmong enter parent (node :: before) rest

end

def Node.isElement : Node → Bool
  | .element .. => true
  | .string .. => false

namespace Place

def name : Place → String
  | document _ => "[document]"
  | element _ _ name _ _ _ => name

def attributes : Place → List (String × String)
  | document _ => []
  | element _ _ _ attributes _ _ => attributes

def children : Place → List Node
  | document children => children
  | element _ _ _ _ children _ => children

def parent? : Place → Option Place
  | document _ => none
  | element parent .. => some parent

/-- The nodes before a place in its parent, nearest first. -/
def before : Place → List Node
  | document _ => []
  | element _ before .. => before

def after : Place → List Node
  | document _ => []
  | element _ _ _ _ _ after => after

def node : Place → Node
  | document children => .element "" [] children
  | element _ _ name attributes children _ => .element name attributes children

def previous : Place → List Place
  | document _ => []
  | element parent before name attributes children after =>
    go parent before (.element name attributes children :: after)
where
  go (parent : Place) : List Node → List Node → List Place
    | [], _ => []
    | .string kind content :: rest, after => go parent rest (.string kind content :: after)
    | .element name attributes children :: rest, after =>
      element parent rest name attributes children after ::
        go parent rest (.element name attributes children :: after)

/-- Enter nothing: the elements of a run of nodes alone. -/
def outermost (_ : String) : Bool := false

def next : Place → List Place
  | document _ => []
  | element parent before name attributes children after =>
    placesAmong outermost parent (.element name attributes children :: before) after

def elements (p : Place) : List Place := placesAmong outermost p [] p.children

def descendants (enter : String → Bool) (p : Place) : List Place :=
  placesAmong enter p [] p.children

/-- The elements around a place, innermost first; the document is the last one. -/
def ancestors : Place → List Place
  | document _ => []
  | element parent .. => parent :: parent.ancestors

/-- How many nodes stand before a place and before each of the places around it. No two places of a
document have the same path. -/
def path : Place → List Nat
  | document _ => []
  | element parent before .. => before.length :: parent.path

/-- The value of an attribute by its name in lower case. -/
def attribute? (p : Place) (key : String) : Option String :=
  (p.attributes.find? fun (k, _) => k.toLower == key).map (·.2)

end Place

def Document.place (d : Document) : Place := .document d.children

def Document.places (d : Document) : List Place := d.place.descendants fun _ => true

end PageCheck.Html
