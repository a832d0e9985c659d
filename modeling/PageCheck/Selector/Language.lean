import PageCheck.Selector.Page
import PageCheck.Text.Case

/-!
# Languages

The language of an element is written on it or on an element around it, or at the head of the
page. A language range holds of a language tag if its parts stand in the tag in their order, with
parts of more than one character allowed between them.
-/

namespace PageCheck.Selector

open Html (Place Node)
open Text (Codes)

/-- The parts of a range or tag, in lower case. -/
def languageParts (s : String) : List String :=
  (String.ofList (Text.lower s.toList)).splitOn "-"

/-- The parts of a range behind its first one. Stars between them ask for nothing; in place of
stars at the end there is an empty part, which no tag has. -/
def withoutStars (parts : List String) : List String :=
  parts.filter (· != "*") ++ (if parts.getLast? = some "*" then [""] else [])

def partsHold : List String → List String → Bool
  | [], _ => true
  | _ :: _, [] => false
  | r :: range, t :: tag =>
    if r = "" then false
    else if r = t then partsHold range tag
    else if t.length = 1 then false
    else partsHold (r :: range) tag

def rangeHolds (range tag : String) : Bool :=
  match languageParts range, languageParts tag with
  | r :: more, t :: rest =>
    (if r = "*" then !(rest.isEmpty && t == "") else r == t) && partsHold (withoutStars more) rest
  | _, _ => false

def child? (name : String) (p : Place) : Option Place :=
  if isFrame p.name then none else p.elements.find? fun q => q.name.toLower == name

/-- The language that an element of the head gives to the page. -/
def headLanguage? (p : Place) : Option String :=
  if p.name.toLower = "meta" && (p.attribute? "http-equiv").any (·.toLower == "content-language") then
    (p.attribute? "content").filter (· != "")
  else none

/-- The language of an element. An empty one is only taken if there is no other around it. -/
def language? (p : Place) : Option String :=
  let around := p :: pageAncestors p
  let written := around.filterMap (·.attribute? "lang")
  match written.find? (· != "") with
  | some language => some language
  | none =>
    if !written.isEmpty then some ""
    else do
      let page ← around.getLast?
      let head ← (child? "html" page).bind (child? "head")
      head.elements.findSome? headLanguage?

/-- No tag holds a half, so no range with one holds of any. -/
def speaks (p : Place) (ranges : List Codes) : Bool :=
  (language? p).any fun language => (ranges.filterMap Codes.text?).any (rangeHolds · language)

end PageCheck.Selector
