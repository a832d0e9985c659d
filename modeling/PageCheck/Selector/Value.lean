import PageCheck.Html.Place
import PageCheck.Selector.Basic
import PageCheck.Text.Case

/-!
# Values of attributes

The tests that conditions make on the value of an attribute. Where the end of the value counts, one
line feed may stand behind it.
-/

namespace PageCheck.Selector

open Html (Place)
open Text (Code Codes)

def isWordBreak (c : Code) : Bool :=
  c == ' ' || c == '\t' || c == '\n' || c == '\x0c' || c == '\r'

def valueWords (s : Codes) : List Codes := s.splitOnP isWordBreak

/-- A value without a line feed at its end. -/
def withoutLineEnd (s : Codes) : Codes :=
  if s.getLast? = some (Code.char '\n') then s.dropLast else s

def occursIn (part : Codes) : Codes → Bool
  | [] => part.isEmpty
  | c :: rest => part.isPrefixOf (c :: rest) || occursIn part rest

/-- Whether a value passes a test that tells all characters apart. -/
def ValueTest.passes (test : ValueTest) (s : Codes) : Bool :=
  match test with
  | present => true
  | equals value => s == value || withoutLineEnd s == value
  | begins value => value.isPrefixOf s
  | ends value => value.isSuffixOf s || value.isSuffixOf (withoutLineEnd s)
  | contains value => occursIn value s
  | word value => !value.isEmpty && !value.any isWordBreak && (valueWords s).contains value
  | dashed value => s == value || withoutLineEnd s == value || (value ++ [Code.char '-']).isPrefixOf s

def foldCases (s : Codes) : Codes := s.map (Code.map Text.foldChar)

/-- The same test for values in which the cases of letters have been made one. -/
def ValueTest.folded (test : ValueTest) : ValueTest :=
  match test with
  | present => present
  | equals value => equals (foldCases value)
  | begins value => begins (foldCases value)
  | ends value => ends (foldCases value)
  | contains value => contains (foldCases value)
  | word value => word (foldCases value)
  | dashed value => dashed (foldCases value)

/-- No attribute has a name with a half in it. -/
def attributeHolds (p : Place) (key : Codes) (test : ValueTest) (anyCase : Bool) : Bool :=
  (key.text?.bind fun name => p.attribute? name.toLower).any fun value =>
    if anyCase then test.folded.passes (foldCases value) else test.passes value

end PageCheck.Selector
