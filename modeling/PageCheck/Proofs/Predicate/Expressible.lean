import PageCheck.Proofs.Predicate.Spelling

/-!
# What can be said of a page

There is a text for every page predicate without a comma in its literals, as far as its negations are
allowed, and for no other. Quotes protect whatever is between them but do not vanish around nothing,
so an empty literal is written as a blank.
-/

namespace PageCheck.Predicate

set_option autoImplicit false

open Call (written)
open Text (Margin)

/-- Page predicates for which there is a text. -/
structure IsExpressible (limit : Int) (p : Predicate) : Prop where
  site : p.IsSite
  comma : ∀ l ∈ p.literals, ',' ∉ l.toList
  nesting : (p.nesting : Int) ≤ max limit 0

variable {limit : Int} {text : List Char} {p : Predicate}

theorem mem_of_mem_unquote {c : Char} {s : List Char} (h : c ∈ unquote s) : c ∈ s := by
  by_cases hQuoted : ∃ t, t ≠ [] ∧ s = '\'' :: (t ++ ['\''])
  · obtain ⟨t, hSome, rfl⟩ := hQuoted
    rw [unquote_append hSome] at h
    exact List.mem_cons_of_mem _ (List.mem_append_left _ h)
  · rwa [unquote_of_not_quoted hQuoted] at h

theorem mem_of_mem_literal {c : Char} {s : List Char} (h : c ∈ (literal (Text.strip s)).toList) :
    c ∈ s := by
  rw [literal, String.toList_ofList] at h
  exact (Text.strip_isInfix s).subset (mem_of_mem_unquote h)

theorem mem_spelled_of_mem {c : Char} {content : List Char} (h : c ∈ content) (margins : List Margin) :
    c ∈ spelled content margins := by
  induction margins with
  | nil => exact mem_written_of_mem h _
  | cons m inner ih => exact mem_written_of_mem ((m.isInfix_around _).subset ih) _

/-- What is in a literal that was read stood in the text, and is no comma. -/
theorem mem_of_readSite (h : readSite limit text = .ok p) {l : String} (hl : l ∈ p.literals) {c : Char}
    (hc : c ∈ l.toList) : c ∈ text ∧ c ≠ ',' := by
  obtain ⟨selector, outer, content, inner, rfl, hSelector, hContent, _, _, rfl⟩ :=
    exists_arguments_of_readSite h
  rw [ofSpelled, literals_of_negate, List.mem_cons, List.mem_singleton] at hl
  have hArguments : c ∈ arguments selector outer content inner ∧ c ≠ ',' := by
    rcases hl with rfl | rfl
    · have hMem := mem_of_mem_literal hc
      exact ⟨List.mem_append_left _ hMem, fun hComma => hSelector (hComma ▸ hMem)⟩
    · have hMem := mem_of_mem_literal hc
      have hInner := (outer.isInfix_around _).subset (mem_spelled_of_mem hMem inner)
      exact ⟨List.mem_append_right _ (List.mem_cons_of_mem _ hInner),
        fun hComma => hContent (hComma ▸ hMem)⟩
  exact ⟨mem_written_of_mem hArguments.1 _, hArguments.2⟩

theorem isExpressible_of_readSite (h : readSite limit text = .ok p) : p.IsExpressible limit where
  site := isSite_of_readSite h
  comma := fun _ hl hMem => (mem_of_readSite h hl hMem).2 rfl
  nesting := by
    obtain ⟨selector, outer, content, inner, _, _, _, _, hNesting, rfl⟩ :=
      exists_arguments_of_readSite h
    rwa [ofSpelled, nesting_of_negate]

/-- A literal as it can be written in any case. -/
def spelling (s : String) : List Char := if s = "" then [' '] else quoted s

theorem literal_spelling (s : String) : literal (Text.strip (spelling s)) = s := by
  rw [spelling]
  split
  · rename_i hEmpty
    rw [hEmpty]
    rfl
  · rename_i hSome
    rw [literal_quoted, (reread_eq_self_iff s).mpr hSome]

theorem spelling_ne_nil (s : String) : spelling s ≠ [] := by
  rw [spelling]
  split
  · exact List.cons_ne_nil _ _
  · exact List.cons_ne_nil _ _

theorem mem_spelling {c : Char} {s : String} (h : c ∈ spelling s) :
    c = ' ' ∨ c = '\'' ∨ c ∈ s.toList := by
  rw [spelling] at h
  split at h
  · exact Or.inl (List.mem_singleton.mp h)
  · by_cases hQuote : c = '\''
    · exact Or.inr (Or.inl hQuote)
    · exact Or.inr (Or.inr ((mem_quoted hQuote s).mp h))

theorem comma_notMem_spelling {s : String} (h : ',' ∉ s.toList) : ',' ∉ spelling s := by
  intro hMem
  rcases mem_spelling hMem with hBlank | hQuote | hComma
  · exact absurd hBlank (by decide)
  · exact absurd hQuote (by decide)
  · exact h hComma

theorem mem_spelled_none {c : Char} {content : List Char} {k : Nat}
    (h : c ∈ spelled content (List.replicate k .none)) : c ∈ elementMarks ∨ c ∈ content := by
  induction k with
  | zero =>
    rcases mem_written.mp h with hName | hOpen | hContent | hClose
    · exact Or.inl (List.mem_append_left _ (List.mem_append_left _ hName))
    · exact Or.inl (hOpen ▸ by decide)
    · exact Or.inr hContent
    · exact Or.inl (hClose ▸ by decide)
  | succ k ih =>
    rw [List.replicate_succ, spelled, Margin.around_none] at h
    rcases mem_written.mp h with hName | hOpen | hInner | hClose
    · exact Or.inl (List.mem_append_left _ (List.mem_append_right _ hName))
    · exact Or.inl (hOpen ▸ by decide)
    · exact ih hInner
    · exact Or.inl (hClose ▸ by decide)

/-- The text of an expressible predicate needs no other characters than those of the language and of
the literals. -/
theorem IsExpressible.exists_text (h : p.IsExpressible limit) :
    ∃ text, readSite limit text = .ok p ∧
      ∀ c ∈ text, c ∈ siteMarks ∨ ∃ l ∈ p.literals, c ∈ l.toList := by
  obtain ⟨selector, content, k, rfl⟩ := exists_negate_of_isSite h.site
  obtain ⟨_, hComma, hNesting⟩ := h
  rw [literals_of_negate] at hComma ⊢
  rw [nesting_of_negate] at hNesting
  refine ⟨written "element_matches".toList
    (arguments (spelling selector) .none (spelling content) (List.replicate k .none)), ?_, ?_⟩
  · rw [readSite_arguments (comma_notMem_spelling (hComma selector (by simp)))
      (comma_notMem_spelling (hComma content (by simp))) (spelling_ne_nil content) .none
      (by rwa [List.length_replicate]), ofSpelled, literal_spelling, literal_spelling,
      List.length_replicate]
  · have hLiteral {l : String} (hl : l ∈ [selector, content]) {c : Char} (hc : c ∈ spelling l) :
        c ∈ siteMarks ∨ ∃ l ∈ [selector, content], c ∈ l.toList := by
      rcases mem_spelling hc with rfl | rfl | hMem
      · exact Or.inl (by decide)
      · exact Or.inl (by decide)
      · exact Or.inr ⟨l, hl, hMem⟩
    intro c hc
    rw [arguments, Margin.around_none, mem_written, List.mem_append, List.mem_cons] at hc
    rcases hc with hName | rfl | (hSelector | rfl | hElement) | rfl
    · exact Or.inl (List.mem_append_left _ (List.mem_append_right _ hName))
    · exact Or.inl (by decide)
    · exact hLiteral (by simp) hSelector
    · exact Or.inl (by decide)
    · rcases mem_spelled_none hElement with hMark | hContent
      · exact Or.inl (List.mem_append_left _ (List.mem_append_left _ hMark))
      · exact hLiteral (by simp) hContent
    · exact Or.inl (by decide)

end PageCheck.Predicate
