import PageCheck.Predicate.Basic
import PageCheck.Proofs.Predicate.Call

/-!
# Literals of predicates

The text of a predicate is a call at every level. Apart from its literals it holds only a few fixed
characters, so a character of any other sort is in the text exactly if it is in a literal.
-/

namespace PageCheck.Predicate

set_option autoImplicit false

open Call (written)

/-- The selector and the content in a predicate, in the order of its text. -/
def literals : Predicate → List String
  | contentMatches content => [content]
  | negation sub => sub.literals
  | elementMatches selector element => selector :: element.literals

def nesting : Predicate → Nat
  | elementMatches _ element => element.negations
  | p => p.negations

def mapLiterals (f : String → String) : Predicate → Predicate
  | contentMatches content => contentMatches (f content)
  | negation sub => negation (sub.mapLiterals f)
  | elementMatches selector element => elementMatches (f selector) (element.mapLiterals f)

theorem mapLiterals_eq_self_iff (f : String → String) (p : Predicate) :
    p.mapLiterals f = p ↔ ∀ l ∈ p.literals, f l = l := by
  induction p with
  | contentMatches content => simp [mapLiterals, literals]
  | negation sub ih => simpa [mapLiterals, literals] using ih
  | elementMatches selector element ih => simp [mapLiterals, literals, ih]

theorem nesting_of_isElement {p : Predicate} (h : p.IsElement) : p.nesting = p.negations := by
  cases p with
  | elementMatches selector element => exact h.elim
  | _ => rfl

theorem exists_negate_of_isElement {p : Predicate} (h : p.IsElement) :
    ∃ content k, p = (contentMatches content).negate k := by
  induction p with
  | contentMatches content => exact ⟨content, 0, rfl⟩
  | negation sub ih =>
    obtain ⟨content, k, rfl⟩ := ih h
    exact ⟨content, k + 1, rfl⟩
  | elementMatches selector element ih => exact h.elim

theorem exists_negate_of_isSite {p : Predicate} (h : p.IsSite) :
    ∃ selector content k, p = elementMatches selector ((contentMatches content).negate k) := by
  cases p with
  | contentMatches content => exact h.elim
  | negation sub => exact h.elim
  | elementMatches selector element =>
    obtain ⟨content, k, rfl⟩ := exists_negate_of_isElement h
    exact ⟨selector, content, k, rfl⟩

theorem literals_negate (p : Predicate) (k : Nat) : (p.negate k).literals = p.literals := by
  induction k with
  | zero => rfl
  | succ k ih => rw [negate, literals, ih]

theorem negations_negate (p : Predicate) (k : Nat) : (p.negate k).negations = p.negations + k := by
  induction k with
  | zero => rfl
  | succ k ih => rw [negate, negations, ih, Nat.add_assoc]

theorem literals_of_negate (selector content : String) (k : Nat) :
    (elementMatches selector ((contentMatches content).negate k)).literals = [selector, content] := by
  rw [literals, literals_negate, literals]

theorem nesting_of_negate (selector content : String) (k : Nat) :
    (elementMatches selector ((contentMatches content).negate k)).nesting = k := by
  rw [nesting, negations_negate]
  exact Nat.zero_add k

def quoted (s : String) : List Char := '\'' :: (s.toList ++ ['\''])

theorem expression_contentMatches (content : String) :
    (contentMatches content).expression.toList =
      written "content_matches".toList (quoted content) := by
  have hText : (contentMatches content).expression = "content_matches('" ++ content ++ "')" := rfl
  have hOpen : "content_matches('".toList = "content_matches".toList ++ ['(', '\''] := by decide
  have hClose : "')".toList = ['\'', ')'] := by decide
  rw [hText, String.toList_append, String.toList_append, hOpen, hClose, written, quoted]
  simp only [List.append_assoc, List.cons_append, List.nil_append]

theorem expression_negation (sub : Predicate) :
    (negation sub).expression.toList = written "not".toList sub.expression.toList := by
  have hText : (negation sub).expression = "not(" ++ sub.expression ++ ")" := rfl
  have hOpen : "not(".toList = "not".toList ++ ['('] := by decide
  have hClose : ")".toList = [')'] := by decide
  rw [hText, String.toList_append, String.toList_append, hOpen, hClose, written]
  simp only [List.append_assoc, List.cons_append, List.nil_append]

theorem expression_elementMatches (selector : String) (element : Predicate) :
    (elementMatches selector element).expression.toList =
      written "element_matches".toList (quoted selector ++ ',' :: ' ' :: element.expression.toList) := by
  have hText : (elementMatches selector element).expression =
    "element_matches('" ++ selector ++ "', " ++ element.expression ++ ")" := rfl
  have hOpen : "element_matches('".toList = "element_matches".toList ++ ['(', '\''] := by decide
  have hComma : "', ".toList = ['\'', ',', ' '] := by decide
  have hClose : ")".toList = [')'] := by decide
  rw [hText, String.toList_append, String.toList_append, String.toList_append, String.toList_append,
    hOpen, hComma, hClose, written, quoted]
  simp only [List.append_assoc, List.cons_append, List.nil_append]

/-- The characters in the text of an element predicate that belong to no literal. -/
def elementMarks : List Char := "content_matches".toList ++ "not".toList ++ ['(', '\'', ')']

def siteMarks : List Char := elementMarks ++ "element_matches".toList ++ [',', ' ']

theorem mem_written {c : Char} {name body : List Char} :
    c ∈ written name body ↔ c ∈ name ∨ c = '(' ∨ c ∈ body ∨ c = ')' := by
  simp [written]

theorem mem_written_of_mem {c : Char} {body : List Char} (h : c ∈ body) (name : List Char) :
    c ∈ written name body :=
  mem_written.mpr (Or.inr (Or.inr (Or.inl h)))

theorem mem_quoted {c : Char} (hc : c ≠ '\'') (s : String) : c ∈ quoted s ↔ c ∈ s.toList := by
  simp [quoted, hc]

theorem mem_expression_of_isElement {c : Char} (hc : c ∉ elementMarks) {p : Predicate}
    (h : p.IsElement) : c ∈ p.expression.toList ↔ ∃ l ∈ p.literals, c ∈ l.toList := by
  have hContent : c ∉ "content_matches".toList := fun hMem =>
    hc (List.mem_append_left _ (List.mem_append_left _ hMem))
  have hNot : c ∉ "not".toList := fun hMem =>
    hc (List.mem_append_left _ (List.mem_append_right _ hMem))
  have hOther : c ∉ ['(', '\'', ')'] := fun hMem => hc (List.mem_append_right _ hMem)
  simp only [List.mem_cons, List.not_mem_nil, or_false, not_or] at hOther
  obtain ⟨hOpen, hQuote, hClose⟩ := hOther
  induction p with
  | contentMatches content =>
    rw [expression_contentMatches, mem_written, mem_quoted hQuote]
    simp only [hContent, hOpen, hClose, false_or, or_false, literals, List.mem_singleton,
      exists_eq_left]
  | negation sub ih =>
    have hSub : c ∈ sub.expression.toList ↔ ∃ l ∈ sub.literals, c ∈ l.toList := ih h
    rw [expression_negation, mem_written, hSub]
    simp only [hNot, hOpen, hClose, false_or, or_false, literals]
  | elementMatches selector element => exact h.elim

theorem mem_expression_of_isSite {c : Char} (hc : c ∉ siteMarks) {p : Predicate} (h : p.IsSite) :
    c ∈ p.expression.toList ↔ ∃ l ∈ p.literals, c ∈ l.toList := by
  cases p with
  | elementMatches selector element =>
    have hElement : c ∉ elementMarks := fun hMem =>
      hc (List.mem_append_left _ (List.mem_append_left _ hMem))
    have hName : c ∉ "element_matches".toList := fun hMem =>
      hc (List.mem_append_left _ (List.mem_append_right _ hMem))
    have hOther : c ∉ ['(', '\'', ')', ',', ' '] := by
      intro hMem
      rcases List.mem_append.mp (show c ∈ ['(', '\'', ')'] ++ [',', ' '] from hMem) with hMem | hMem
      · exact hElement (List.mem_append_right _ hMem)
      · exact hc (List.mem_append_right _ hMem)
    simp only [List.mem_cons, List.not_mem_nil, or_false, not_or] at hOther
    obtain ⟨hOpen, hQuote, hClose, hComma, hSpace⟩ := hOther
    rw [expression_elementMatches, mem_written, List.mem_append, mem_quoted hQuote, List.mem_cons,
      List.mem_cons, mem_expression_of_isElement hElement h]
    simp only [hName, hOpen, hClose, hComma, hSpace, false_or, or_false, literals, List.mem_cons,
      exists_eq_or_imp]
  | contentMatches content => exact h.elim
  | negation sub => exact h.elim

end PageCheck.Predicate
