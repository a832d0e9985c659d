import PageCheck.Selector.Page
import PageCheck.Selector.Range
import PageCheck.Selector.Value

/-!
# States of elements

The states that the controls of a form and a few other elements are in, as the page is written:
nothing has been typed, chosen or followed yet.
-/

namespace PageCheck.Selector

open Html (Place)
open Text (Code)

def has (p : Place) (key : String) : Bool := (p.attribute? key).isSome

def valueIs (p : Place) (key value : String) : Bool :=
  attributeHolds p key (.equals value) true

def isBare (p : Place) (key : String) : Bool := attributeHolds p key (.equals []) false

def named (p : Place) (names : List String) : Bool := names.contains p.name

def isInput (p : Place) (kinds : List String) : Bool :=
  p.name == "input" && kinds.any (valueIs p "type")

/-- An input field without a kind, or of one of the given kinds. -/
def isField (p : Place) (kinds : List String) : Bool :=
  p.name == "input" && (!has p "type" || isBare p "type" || kinds.any (valueIs p "type"))

def isChecked (p : Place) : Bool :=
  (isInput p ["checkbox", "radio"] && has p "checked") || (p.name == "option" && has p "selected")

def form? (p : Place) : Option Place := (pageAncestors p).find? fun q => q.name == "form"

def isSubmit (p : Place) : Bool :=
  named p ["input", "button"] && ((p.attribute? "type").getD "").toLower == "submit"

/-- Whether an element is the first submit button of its form; the search ends at a form inside. -/
def isFirstSubmit (p : Place) : Bool :=
  (form? p).any fun form =>
    ((pageDescendants form).find? fun q => q.name == "form" || isSubmit q).any fun q =>
      q.name != "form" && q.path == p.path

/-- Whether a control is the one that its form comes with. -/
def isPreselected (p : Place) : Bool :=
  isChecked p || (named p ["button", "input"] && valueIs p "type" "submit" && isFirstSubmit p)

/-- What the radio buttons of one group have in common: their form, or the page without one. -/
def groupHead (p : Place) : Place := (form? p).getD ((pageAncestors p).getLast?.getD p)

def hasCheckedPeer (p : Place) : Bool :=
  let head := groupHead p
  (pageDescendants head).any fun q =>
    q.path != p.path && q.name == "input" && has q "checked" &&
      (q.attribute? "type").any (·.toLower == "radio") && q.attribute? "name" == p.attribute? "name" &&
      (groupHead q).path == head.path

/-- Whether it is open if a control is set or not. -/
def isUndecided (p : Place) : Bool :=
  (isInput p ["checkbox"] && has p "indeterminate") ||
    (p.name == "progress" && !has p "value") ||
    (isInput p ["radio"] && !has p "checked" &&
      (!has p "name" || isBare p "name" || !hasCheckedPeer p))

def isGroupable (p : Place) : Bool :=
  (p.name == "input" && !valueIs p "type" "hidden") ||
    named p ["button", "select", "textarea", "fieldset"]

def isControl (p : Place) : Bool := isGroupable p || named p ["optgroup", "option"]

def inDisabled (name : String) (p : Place) : Bool :=
  (pageParent? p).any fun q => q.name == name && has q "disabled"

def isFirstLegend (p : Place) : Bool :=
  p.name == "legend" && !p.previous.any fun q => q.name == "legend"

def isDisabled (p : Place) : Bool :=
  (isControl p && has p "disabled") ||
    (p.name == "option" && inDisabled "optgroup" p) ||
    (isGroupable p && (inDisabled "fieldset" p ||
      (pageAncestors p).any fun q => !isFirstLegend q && inDisabled "fieldset" q))

def isEntry (p : Place) : Bool := named p ["input", "select", "textarea"]

/-- Kinds of input fields that show a hint while they are empty. -/
def hintKinds : List String :=
  ["text", "search", "url", "tel", "email", "password", "number"]

def isPlaceholderShown (p : Place) : Bool :=
  has p "placeholder" && !isBare p "placeholder" &&
    ((isField p hintKinds && (!has p "value" || isBare p "value")) ||
      (p.name == "textarea" && [[], [Code.char '\n']].contains (wholeText false p)))

def typedKinds : List String :=
  ["date", "datetime-local", "email", "month", "number", "password", "search", "tel", "text",
    "time", "url", "week"]

def isReadWrite (p : Place) : Bool :=
  ((p.name == "textarea" || isField p typedKinds) && !has p "readonly" && !isDisabled p) ||
    isBare p "contenteditable" || valueIs p "contenteditable" "true"

def rangedKinds : List String :=
  ["date", "month", "week", "time", "datetime-local", "number", "range"]

def isRanged (p : Place) : Bool := isInput p rangedKinds && (has p "min" || has p "max")

/-- Whether an element name is of the kind that pages do not make up themselves. -/
def isDefined (name : String) : Bool := !name.contains '-' || name.contains ':'

def State.holds (state : State) (p : Place) : Bool :=
  match state with
  | root => isRoot p
  | scope => isScope p
  | empty => isEmpty p
  | defined => isDefined p.name
  | link => named p ["a", "area"] && has p "href"
  | checked => isChecked p
  | preselected => isPreselected p
  | disabled => isDisabled p
  | enabled => isControl p && !isDisabled p
  | undecided => isUndecided p
  | inRange => isRanged p && outOfRange? p == some false
  | outOfRange => isRanged p && outOfRange? p == some true
  | optional => isEntry p && !has p "required"
  | required => isEntry p && has p "required"
  | placeholderShown => isPlaceholderShown p
  | readOnly => !isReadWrite p
  | readWrite => isReadWrite p
  | opened => named p ["details", "dialog"] && has p "open"
  | muted => named p ["video", "audio"] && has p "muted"

end PageCheck.Selector
