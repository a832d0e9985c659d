import PageCheck.Log.Record
import PageCheck.Predicate.Outline
import PageCheck.Selector.Matching
import PageCheck.Selector.Reader

/-!
# Evaluating predicates on documents

A predicate of an element compares its text as it is, with all its white space. A predicate of a
page is judged on the first element that its selector selects; if there is none it does not hold,
whatever is asked of the element, and the log says so.
-/

namespace PageCheck

open Html (Document Node)
open Text (Codes)

inductive EvaluationError where
  /-- The selector cannot be read. -/
  | selector (selector : String) (fault : Selector.Fault)
  /-- A predicate that stands where one of the other sort belongs. -/
  | misplaced (predicate : Predicate)
deriving Repr

namespace EvaluationError

def invalid (selector reason : String) : String :=
  "Invalid selector " ++ Text.quoted selector ++ ": " ++ reason

def message : EvaluationError → String
  | selector text fault =>
    match fault.sort with
    | .number => fault.message text
    | _ => invalid text (fault.message text)
  | misplaced predicate =>
    "Expected code to be unreachable, but got: " ++ predicate.shortOutline

/-- Whether the selector is to blame for the error. -/
def isInvalidSelector : EvaluationError → Bool
  | selector _ fault => fault.sort != .number
  | misplaced _ => false

end EvaluationError

namespace Html.Document

def select (d : Document) (selector : String) : Except Selector.Fault (Option Node) :=
  (Selector.read selector).map fun list => (list.first? d).map (·.node)

end Html.Document

namespace Predicate

def evaluateElement (element : Node) : Predicate → Except EvaluationError Bool
  | contentMatches content => .ok (element.text == Codes.ofString content)
  | negation sub => (sub.evaluateElement element).map (!·)
  | p@(elementMatches ..) => .error (.misplaced p)

def evaluateSite (document : Document) : Predicate → Logged (Except EvaluationError Bool)
  | elementMatches selector element =>
    match document.select selector with
    | .error fault => pure (.error (.selector selector fault))
    | .ok none =>
      ⟨.ok false, [⟨.warning, "Could not find element " ++ selector⟩]⟩
    | .ok (some found) => pure (element.evaluateElement found)
  | p => pure (.error (.misplaced p))

end Predicate

end PageCheck
