import PageCheck.Selector.Language
import PageCheck.Selector.State
import PageCheck.Selector.Writing

/-!
# Which elements a selector selects

A condition is judged at a place. A combinator looks for a place before or behind, above or below,
at which the rest of the selector holds. The first element of the document at which a list of
selectors holds is the one that the list points to.
-/

namespace PageCheck.Selector

open Html (Place Document)
open Text (Codes)

/-- Whether a number is a term `step · n + offset`. -/
def isTerm (step offset place : Int) : Bool :=
  if step = 0 then place == offset
  else (place - offset) % step == 0 && 0 ≤ (place - offset) / step

/-- Whether a position holds of a place, counted from one. A growing row of terms is given up if it
meets zero on its way up. -/
def Position.holds (position : Position) (place : Nat) : Bool :=
  match position.step with
  | none => (place : Int) == position.offset
  | some step =>
    isTerm step position.offset place &&
      !(0 < step && position.offset < 0 && position.offset % step == 0)

/-- The siblings from which a place is counted, the nearest first. -/
def countedFrom (position : Position) (p : Place) : List Place :=
  let side := if position.fromEnd then p.next else p.previous
  if position.sameName then side.filter (·.name == p.name) else side

def placesBehind (inPage : Bool) (combinator : Combinator) (p : Place) : List Place :=
  match combinator with
  | .descendant => if inPage then pageAncestors p else p.ancestors
  | .child => (if inPage then pageParent? p else p.parent?).toList
  | .sibling => p.previous
  | .adjacent => p.previous.take 1

def placesAhead (inPage : Bool) (combinator : Combinator) (p : Place) : List Place :=
  match combinator with
  | .descendant => if inPage then pageDescendants p else p.descendants fun _ => true
  | .child => if inPage && isFrame p.name then [] else p.elements
  | .sibling => p.next
  | .adjacent => p.next.take 1

/-- Whether the name space of a condition admits the elements of a page. -/
def spaceHolds (inPage : Bool) (space : Option Codes) : Bool :=
  match space with
  | none => true
  | some space => space == "*" || (inPage && space == "html")

def textHolds (part : TextPart) (texts : List Codes) (p : Place) : Bool :=
  texts.any fun text =>
    match part with
    | .whole => occursIn text (wholeText true p)
    | .own => (ownTexts p).any (occursIn text)
    | .ownExactly => (ownTexts p).contains text
    | .character => (wholeText true p).any fun c => occursIn text [c]

mutual

def Condition.holds (inPage : Bool) (p : Place) : Condition → Bool
  | .name space name => spaceHolds inPage space && name.all (· == Codes.ofString p.name.toLower)
  | .identifier id => Codes.ofString ((p.attribute? "id").getD "") == id
  | .className name => (valueWords ((p.attribute? "class").getD "")).contains name
  | .attribute key test anyCase => attributeHolds p key test anyCase
  | .position position none => position.holds ((countedFrom position p).length + 1)
  | .position position (some among) =>
    among.holds inPage p &&
      position.holds (((countedFrom position p).filter fun q => among.holds inPage q).length + 1)
  | .list selectors => selectors.holds inPage p
  | .behind combinator conditions =>
    (placesBehind inPage combinator p).any fun q => allHold inPage q conditions
  | .ahead combinator conditions =>
    (placesAhead inPage combinator p).any fun q => allHold inPage q conditions
  | .state state => state.holds p
  | .contains part texts => textHolds part texts p
  | .language ranges => speaks p ranges
  | .direction leftToRight => direction? p == some leftToRight
  | .never => false

def allHold (inPage : Bool) (p : Place) : List Condition → Bool
  | [] => true
  | condition :: rest => condition.holds inPage p && allHold inPage p rest

def anyHolds (inPage : Bool) (p : Place) : List (List Condition) → Bool
  | [] => false
  | conditions :: rest => allHold inPage p conditions || anyHolds inPage p rest

def SelectorList.holds (inPage : Bool) (p : Place) : SelectorList → Bool
  | .mk negated markup alternatives => anyHolds (inPage || markup) p alternatives != negated

end

def SelectorList.first? (list : SelectorList) (d : Document) : Option Place :=
  d.places.find? fun p => list.holds false p

end PageCheck.Selector
