import PageCheck.Text.Quoted

/-!
# Pages that cannot be read

Nearly every text is a page. The exceptions are marked sections with an unknown or missing keyword
and numeric character references with too many digits.
-/

namespace PageCheck.Html

inductive Fault where
  /-- A marked section that begins with no name; `near` is the text there. -/
  | sectionName (near : String)
  /-- A marked section with a keyword that is not known. -/
  | sectionKeyword (keyword : String)
  /-- A numeric reference whose number has too many digits. -/
  | longReference (digits : Nat)
deriving DecidableEq, Repr

namespace Fault

def detail : Fault → String
  | sectionName near => "expected name token at " ++ Text.quoted near
  | sectionKeyword keyword =>
    "unknown status keyword " ++ Text.quoted keyword ++ " in marked section"
  | longReference digits => Text.longNumberMessage (some digits)

/-- Whether the markup itself was rejected, rather than a number in it. -/
def isRejection : Fault → Bool
  | longReference _ => false
  | _ => true

def message (f : Fault) : String :=
  if f.isRejection then
    "The markup you provided was rejected by the parser. Trying a different parser or a " ++
      "different encoding may help.\n\nOriginal exception(s) from parser:\n AssertionError: " ++
      f.detail
  else f.detail

end Fault

end PageCheck.Html
