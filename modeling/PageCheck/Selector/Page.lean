import PageCheck.Html.Place
import PageCheck.Text.Blank

/-!
# Pages inside pages

Below a frame a page of its own begins. Some conditions look at one page only: they neither leave
it upwards nor enter another one.
-/

namespace PageCheck.Selector

open Html (Place Node)
open Text (Code Codes)

/-- Whether a page of its own begins below an element. -/
def isFrame (name : String) : Bool := name == "iframe"

def pageParent? (p : Place) : Option Place := p.parent?.filter fun q => !isFrame q.name

/-- The places around an element in its page, innermost first. -/
def pageAncestors : Place → List Place
  | .document _ => []
  | .element parent .. => if isFrame parent.name then [] else parent :: pageAncestors parent

/-- The nodes of a place that belong to its page. -/
def pageChildren (p : Place) : List Node := if isFrame p.name then [] else p.children

def pageDescendants (p : Place) : List Place :=
  if isFrame p.name then [] else p.descendants fun name => !isFrame name

/-- The content of a string, if it is no comment or the like. -/
def content? : Node → Option Codes
  | .string kind content => if kind.isContent then some content else none
  | .element .. => none

def ownTexts (p : Place) : List Codes := (pageChildren p).filterMap content?

mutual

/-- The text of a node, in its page only or with the pages below it. -/
def nodeText (inPage : Bool) : Node → Codes
  | .string kind content => if kind.isContent then content else []
  | .element name _ children =>
    if inPage && isFrame name then [] else childrenText inPage children

def childrenText (inPage : Bool) : List Node → Codes
  | [] => []
  | node :: rest => nodeText inPage node ++ childrenText inPage rest

end

def wholeText (inPage : Bool) (p : Place) : Codes :=
  if inPage && isFrame p.name then [] else childrenText inPage p.children

/-- Whether a place is the outermost element of a page, the first one of the document. -/
def isOutermost : Place → Bool
  | .document _ => false
  | .element (.document _) before .. => !before.any Node.isElement
  | .element parent .. => isFrame parent.name

/-- Whether a node may stand beside the root: a comment or the like, or blank text. -/
def isBesideRoot : Node → Bool
  | .element .. => false
  | .string .characterData _ => false
  | .string kind content => !kind.isContent || content.all (Code.is Text.isBlank)

/-- Whether a place is the outermost element of a page with nothing else beside it. -/
def isRoot (p : Place) : Bool :=
  isOutermost p && p.before.all isBesideRoot && p.after.all isBesideRoot

/-- The outermost element of the whole document. -/
def isScope : Place → Bool
  | .element (.document _) before .. => !before.any Node.isElement
  | _ => false

def isFilling (c : Code) : Bool :=
  !(c == ' ' || c == '\t' || c == '\r' || c == '\n' || c == '\x0c')

/-- Whether a place has no elements and no text right below it. -/
def isEmpty (p : Place) : Bool :=
  (pageChildren p).all fun node => !node.isElement &&
    (content? node).all fun content => !content.any isFilling

end PageCheck.Selector
