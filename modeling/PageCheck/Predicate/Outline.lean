import PageCheck.Predicate.Basic
import PageCheck.Text.Quoted

/-!
# The constructor form of a predicate

Messages about a misplaced node name its constructors and fields, and not its text in the
specification language. Long forms are cut.
-/

namespace PageCheck.Predicate

def outline : Predicate → String
  | contentMatches content => "ContentMatches(content=" ++ Text.quoted content ++ ")"
  | negation sub => "Not(sub_predicate=" ++ sub.outline ++ ")"
  | elementMatches selector element =>
    "ElementMatches(selector=" ++ Text.quoted selector ++ ", element_predicate=" ++
      element.outline ++ ")"

def outlineLimit : Nat := 100

/-- The constructor form, cut after `outlineLimit` characters. -/
def shortOutline (p : Predicate) : String :=
  let full := p.outline.toList
  if full.length ≤ outlineLimit then p.outline
  else String.ofList (full.take outlineLimit) ++ "..."

end PageCheck.Predicate
