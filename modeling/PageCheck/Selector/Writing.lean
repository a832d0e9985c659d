import PageCheck.Selector.Page
import PageCheck.Text.Direction

/-!
# Direction of writing of elements

An element is written in the direction that its mark gives. Without one, or with the mark to find
out, text fields and isolated parts go by the first character with a direction of its own; all
others follow the element around them.
-/

namespace PageCheck.Selector

open Html (Place Node)
open Text (Code Codes)

inductive DirectionMark where
  | fixed (leftToRight : Bool)
  | byContent
  | unmarked
deriving DecidableEq, Repr

def DirectionMark.ofValue (value : String) : DirectionMark :=
  match value.toLower with
  | "ltr" => .fixed true
  | "rtl" => .fixed false
  | "auto" => .byContent
  | _ => .unmarked

def DirectionMark.ofAttributes (attributes : List (String × String)) : DirectionMark :=
  match attributes.find? fun (key, _) => key.toLower == "dir" with
  | some (_, value) => ofValue value
  | none => .unmarked

/-- Elements whose content says nothing about the direction around them. -/
def isolated : List String := ["bdi", "script", "style", "textarea", "iframe"]

mutual

def nodeDirection? : Node → Option Bool
  | .string kind content => if kind.isContent then Text.firstDirection? content else none
  | .element name attributes children =>
    if isolated.contains name || DirectionMark.ofAttributes attributes ≠ .unmarked then none
    else childrenDirection? children

def childrenDirection? : List Node → Option Bool
  | [] => none
  | node :: rest => (nodeDirection? node).or (childrenDirection? rest)

end

def textFields : List String := ["text", "search", "tel", "url", "email"]

/-- The text of a field for text, if the place is one. -/
def fieldText? (p : Place) : Option Codes :=
  if p.name = "textarea" then some (ownTexts p).flatten
  else if p.name = "input" && textFields.contains ((p.attribute? "type").getD "").toLower then
    some (Codes.ofString ((p.attribute? "value").getD ""))
  else none

/-- What a place says about its direction itself; the inner `none` stands for nothing. -/
def ownDirection? (p : Place) : Option Bool :=
  match DirectionMark.ofAttributes p.attributes with
  | .fixed leftToRight => some leftToRight
  | .unmarked =>
    if isOutermost p then some true
    else if p.name = "input" && ((p.attribute? "type").getD "").toLower == "tel" then some true
    else if p.name = "bdi" then childrenDirection? p.children
    else none
  | .byContent =>
    match fieldText? p with
    | some text =>
      if text.isEmpty then none else some ((Text.firstDirection? text).getD true)
    | none => childrenDirection? p.children

/-- The direction of writing: from left to right or not, if it is settled in the page. -/
def direction? : Place → Option Bool
  | .document _ => none
  | .element parent before name attributes children after =>
    let p : Place := .element parent before name attributes children after
    match ownDirection? p with
    | some leftToRight => some leftToRight
    | none =>
      if isOutermost p then some true
      else if isFrame parent.name then none
      else direction? parent

end PageCheck.Selector
