/-!
# Predicates

A page predicate picks an element and says something about its text. The tree type also holds
terms in which the two sorts are mixed; `IsElement` and `IsSite` single out the well-formed ones.
-/

namespace PageCheck

inductive Predicate where
  /-- The text of the element is exactly `content`. -/
  | contentMatches (content : String)
  /-- The predicate `sub` does not hold of the element. -/
  | negation (sub : Predicate)
  /-- The first element that `selector` picks satisfies `element`. -/
  | elementMatches (selector : String) (element : Predicate)
deriving DecidableEq, Repr, Inhabited

namespace Predicate

/-- Predicates of one element: negations over a comparison of its text. -/
def IsElement : Predicate → Prop
  | contentMatches _ => True
  | negation sub => sub.IsElement
  | elementMatches _ _ => False

/-- Predicates of a page: a selector over a predicate of one element. -/
def IsSite : Predicate → Prop
  | elementMatches _ element => element.IsElement
  | _ => False

/-- The text that the specification language has for a predicate. Literals stand between single
quotes, and nothing in them is escaped. -/
def expression : Predicate → String
  | contentMatches content => "content_matches('" ++ content ++ "')"
  | negation sub => "not(" ++ sub.expression ++ ")"
  | elementMatches selector element =>
    "element_matches('" ++ selector ++ "', " ++ element.expression ++ ")"

/-- The number of negations around the innermost predicate of an element. -/
def negations : Predicate → Nat
  | negation sub => sub.negations + 1
  | _ => 0

/-- What is left of a predicate without its outer negations. -/
def core : Predicate → Predicate
  | negation sub => sub.core
  | p => p

/-- A predicate under a number of negations. -/
def negate (p : Predicate) : Nat → Predicate
  | 0 => p
  | k + 1 => negation (p.negate k)

end Predicate

/-- A predicate to check on the page at a URL. -/
structure Spec where
  url : String
  predicate : Predicate
deriving DecidableEq, Repr

end PageCheck
