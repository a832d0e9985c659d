import PageCheck.Text.Code

/-!
# Selectors

A selector is a conjunction of conditions on one element; a list of selectors holds of an element
if one of them does, or, when it is negated, if none of them does. Combinators are conditions too:
they ask for another element, before or after, of which a further selector holds.
-/

namespace PageCheck

namespace Selector

open Text (Codes)

inductive Combinator where
  | descendant
  | child
  | sibling
  | adjacent
deriving DecidableEq, Repr

inductive ValueTest where
  | present
  | equals (value : Codes)
  | begins (value : Codes)
  | ends (value : Codes)
  | contains (value : Codes)
  /-- One of the words of the value; nothing is, if it is empty or holds white space itself. -/
  | word (value : Codes)
  /-- The value itself, or the part of it before a hyphen. -/
  | dashed (value : Codes)
deriving DecidableEq, Repr

/-- A place among the siblings: `step · n + offset` for some `n`, or exactly `offset`. -/
structure Position where
  step : Option Int
  offset : Int
  /-- Whether only siblings with the same name count. -/
  sameName : Bool
  /-- Whether siblings are counted from the last one. -/
  fromEnd : Bool
deriving DecidableEq, Repr

inductive State where
  | root
  | scope
  | empty
  | defined
  | link
  | checked
  | preselected
  | disabled
  | enabled
  | undecided
  | inRange
  | outOfRange
  | optional
  | required
  | placeholderShown
  | readOnly
  | readWrite
  | opened
  | muted
deriving DecidableEq, Repr

/-- Where a text has to stand in an element. -/
inductive TextPart where
  /-- Anywhere in the text of the element and of those below it. -/
  | whole
  /-- In one of the strings of the element itself. -/
  | own
  /-- It is one of the strings of the element itself. -/
  | ownExactly
  /-- In a single character of the whole text. -/
  | character
deriving DecidableEq, Repr

mutual

inductive Condition where
  /-- The name of the element, `none` for any, in a name space if one is given. -/
  | name (space : Option Codes) (name : Option Codes)
  | identifier (id : Codes)
  | className (name : Codes)
  | attribute (key : Codes) (test : ValueTest) (anyCase : Bool)
  | position (place : Position) (among : Option SelectorList)
  | list (selectors : SelectorList)
  /-- An element before or around this one, of which the conditions hold. -/
  | behind (combinator : Combinator) (conditions : List Condition)
  /-- An element after or inside this one, of which the conditions hold. -/
  | ahead (combinator : Combinator) (conditions : List Condition)
  | state (state : State)
  | contains (part : TextPart) (texts : List Codes)
  | language (ranges : List Codes)
  | direction (leftToRight : Bool)
  /-- Holds of nothing. -/
  | never

/-- Alternatives, each the list of its conditions. In markup of its own kind a list knows one name
space, and looks neither into embedded pages nor out of them. -/
inductive SelectorList where
  | mk (negated : Bool) (markup : Bool) (alternatives : List (List Condition))

end

end Selector

end PageCheck
