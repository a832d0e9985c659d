import PageCheck.Text.Blank
import PageCheck.Text.Split

/-!
# Function calls

A call is a name followed by a body in parentheses. The body ends at the last character of the
text and is cut at every comma, so that neither quotes nor inner parentheses protect a comma. The
arguments are shorter than the call, which is what ends the recursion of the predicate reader.
-/

namespace PageCheck

/-- A name with its arguments, each without the blanks around it. -/
structure Call where
  name : List Char
  args : List (List Char)
deriving DecidableEq, Repr

namespace Call

def isNameChar (c : Char) : Bool := c.isAlphanum || c == '_'

/-- The text before a closing parenthesis at its very end. -/
def beforeClose? (s : List Char) : Option (List Char) :=
  match s.reverse with
  | ')' :: body => some body.reverse
  | _ => none

def parts? (text : List Char) : Option (List Char × List Char) :=
  match text.dropWhile isNameChar with
  | '(' :: rest =>
    match beforeClose? rest with
    | some body =>
      if (text.takeWhile isNameChar).isEmpty || body.isEmpty then none
      else some (text.takeWhile isNameChar, body)
    | none => none
  | _ => none

def argsOf (body : List Char) : List (List Char) := (Text.splitAt ',' body).map Text.strip

def read? (text : List Char) : Option Call :=
  (parts? text).map fun (name, body) => ⟨name, argsOf body⟩

theorem length_of_beforeClose? {s body : List Char} (h : beforeClose? s = some body) :
    body.length < s.length := by
  unfold beforeClose? at h
  split at h
  · rename_i rest heq
    have := congrArg List.length heq
    simp only [List.length_reverse, List.length_cons] at this
    cases h
    simp only [List.length_reverse]
    omega
  · cases h

theorem length_of_parts? {text name body : List Char} (h : parts? text = some (name, body)) :
    body.length < text.length := by
  unfold parts? at h
  split at h
  · rename_i rest heq
    split at h
    · rename_i inner hinner
      split at h
      · cases h
      · cases h
        have h1 := length_of_beforeClose? hinner
        have h2 := Text.length_dropWhile_le isNameChar text
        rw [heq, List.length_cons] at h2
        omega
    · cases h
  · cases h

theorem length_of_mem_argsOf {arg body : List Char} (h : arg ∈ argsOf body) :
    arg.length ≤ body.length := by
  obtain ⟨piece, hpiece, rfl⟩ := List.mem_map.mp h
  exact Nat.le_trans (Text.length_strip_le piece) (Text.length_le_of_mem_splitAt hpiece)

theorem length_arg_lt {text arg : List Char} {call : Call} (h : read? text = some call)
    (harg : arg ∈ call.args) : arg.length < text.length := by
  obtain ⟨⟨name, body⟩, hparts, rfl⟩ := Option.map_eq_some_iff.mp h
  exact Nat.lt_of_le_of_lt (length_of_mem_argsOf harg) (length_of_parts? hparts)

end Call

end PageCheck
