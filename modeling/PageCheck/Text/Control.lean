import PageCheck.Text.Behind

/-!
# Control sequences

A terminal takes an escape character, a bracket, parameters and a letter as an order and not as a
text. What is printed goes without such sequences, since it may go to something else.
-/

namespace PageCheck.Text

def isParameter (c : Char) : Bool := c.isDigit || c == ';' || c == '?'

/-- What stands behind the control sequence at the start of a text, if there is one. -/
def behindControl? : List Char → Option (List Char)
  | '\x1b' :: '[' :: body =>
    match body.dropWhile isParameter with
    | c :: rest => if c.isAlpha then some rest else none
    | [] => none
  | _ => none

theorem behindControl?_behind {s rest : List Char} (h : behindControl? s = some rest) :
    IsBehind rest s := by
  unfold behindControl? at h
  split at h
  · rename_i body
    split at h
    · rename_i c after hBody
      have hAfter : c :: after <:+ body := hBody ▸ List.dropWhile_suffix isParameter
      split at h
      · cases h
        exact ⟨_, _, rfl, ((List.suffix_cons c _).trans hAfter).trans (List.suffix_cons '[' body)⟩
      · cases h
    · cases h
  · cases h

def withoutControls : List Char → List Char
  | [] => []
  | c :: rest =>
    match _h : behindControl? (c :: rest) with
    | some after => withoutControls after
    | none => c :: withoutControls rest
termination_by s => s.length
decreasing_by
  · exact (behindControl?_behind _h).length_lt
  · exact Nat.lt_succ_self _

def plain (s : String) : String := String.ofList (withoutControls s.toList)

theorem withoutControls_cons_of_some {c : Char} {rest after : List Char}
    (h : behindControl? (c :: rest) = some after) :
    withoutControls (c :: rest) = withoutControls after := by
  rw [withoutControls]
  split
  · rename_i found hFound
    cases h.symm.trans hFound
    rfl
  · rename_i hNone
    cases h.symm.trans hNone

theorem withoutControls_cons_of_none {c : Char} {rest : List Char}
    (h : behindControl? (c :: rest) = none) :
    withoutControls (c :: rest) = c :: withoutControls rest := by
  rw [withoutControls]
  split
  · rename_i found hFound
    cases h.symm.trans hFound
  · rfl

/-- No control sequence goes on behind the end of a line. -/
theorem behindControl?_line (s t : List Char) :
    behindControl? (s ++ '\n' :: t) = (behindControl? s).map (· ++ '\n' :: t) := by
  match s with
  | [] => rfl
  | [c] =>
    by_cases hc : c = '\x1b'
    · subst hc
      rfl
    · simp [behindControl?, hc]
  | c :: d :: body =>
    by_cases hMark : c = '\x1b' ∧ d = '['
    · obtain ⟨rfl, rfl⟩ := hMark
      simp only [List.cons_append, behindControl?, List.dropWhile_append]
      cases hBody : body.dropWhile isParameter with
      | nil => rfl
      | cons e rest =>
        cases hLetter : e.isAlpha <;> simp [hLetter]
    · simp only [List.cons_append, behindControl?]
      split
      · simp_all
      · split
        · simp_all
        · rfl

theorem withoutControls_line (s t : List Char) :
    withoutControls (s ++ '\n' :: t) = withoutControls s ++ '\n' :: withoutControls t := by
  fun_induction withoutControls s with
  | case1 => exact withoutControls_cons_of_none rfl
  | case2 c rest after hControl ih =>
    rw [List.cons_append, withoutControls_cons_of_some, ih]
    rw [← List.cons_append, behindControl?_line, hControl]
    rfl
  | case3 c rest hNone ih =>
    rw [List.cons_append, withoutControls_cons_of_none, ih, List.cons_append]
    rw [← List.cons_append, behindControl?_line, hNone]
    rfl

end PageCheck.Text
