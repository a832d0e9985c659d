import PageCheck.Report.Escape

/-!
# Escaped texts

An escaped text has none of the marks that end a text or an attribute, its ampersands all belong to
entities, and reading the entities back gives the text that was escaped.
-/

namespace PageCheck.Markup

set_option autoImplicit false

def entities : List (List Char) :=
  ["&amp;".toList, "&lt;".toList, "&gt;".toList, "&#34;".toList, "&#39;".toList]

def unescapeChars : List Char → List Char
  | '&' :: 'a' :: 'm' :: 'p' :: ';' :: rest => '&' :: unescapeChars rest
  | '&' :: 'l' :: 't' :: ';' :: rest => '<' :: unescapeChars rest
  | '&' :: 'g' :: 't' :: ';' :: rest => '>' :: unescapeChars rest
  | '&' :: '#' :: '3' :: '4' :: ';' :: rest => '"' :: unescapeChars rest
  | '&' :: '#' :: '3' :: '9' :: ';' :: rest => '\'' :: unescapeChars rest
  | c :: rest => c :: unescapeChars rest
  | [] => []

theorem unescapeChars_cons {c : Char} (h : c ≠ '&') (rest : List Char) :
    unescapeChars (c :: rest) = c :: unescapeChars rest := by
  rw [unescapeChars] <;> simp [h]

/-- A character is written as an entity or stands for itself. -/
theorem escapeChar_cases (c : Char) :
    (escapeChar c ∈ entities ∧ ∀ rest, unescapeChars (escapeChar c ++ rest) = c :: unescapeChars rest) ∨
      (escapeChar c = [c] ∧ c ≠ '&' ∧ c ≠ '<' ∧ c ≠ '>' ∧ c ≠ '"' ∧ c ≠ '\'') := by
  unfold escapeChar
  split
  · subst c
    exact Or.inl ⟨by decide, fun rest => rfl⟩
  split
  · subst c
    exact Or.inl ⟨by decide, fun rest => rfl⟩
  split
  · subst c
    exact Or.inl ⟨by decide, fun rest => rfl⟩
  split
  · subst c
    exact Or.inl ⟨by decide, fun rest => rfl⟩
  split
  · subst c
    exact Or.inl ⟨by decide, fun rest => rfl⟩
  · exact Or.inr ⟨rfl, by assumption, by assumption, by assumption, by assumption, by assumption⟩

theorem escapeChars_cons (c : Char) (rest : List Char) :
    escapeChars (c :: rest) = escapeChar c ++ escapeChars rest := List.flatMap_cons

theorem unescapeChars_escapeChars (s : List Char) : unescapeChars (escapeChars s) = s := by
  induction s with
  | nil => rfl
  | cons c rest ih =>
    rw [escapeChars_cons]
    rcases escapeChar_cases c with ⟨_, hRead⟩ | ⟨hSelf, hMark, _⟩
    · rw [hRead, ih]
    · rw [hSelf, List.singleton_append, unescapeChars_cons hMark, ih]

theorem escapeChars_injective : Function.Injective escapeChars :=
  Function.LeftInverse.injective unescapeChars_escapeChars

def isMark (c : Char) : Bool := c == '<' || c == '>' || c == '"' || c == '\''

theorem isMark_of_mem_entity : ∀ e ∈ entities, ∀ c ∈ e, isMark c = false := by decide

theorem isMark_of_mem_escapeChars {s : List Char} {c : Char} (h : c ∈ escapeChars s) :
    isMark c = false := by
  obtain ⟨d, _, hMem⟩ := List.mem_flatMap.mp h
  rcases escapeChar_cases d with ⟨hEntity, _⟩ | ⟨hSelf, _, hNot⟩
  · exact isMark_of_mem_entity _ hEntity c hMem
  · rw [hSelf] at hMem
    cases List.mem_singleton.mp hMem
    simp [isMark, hNot]

theorem ampersand_of_mem_entities :
    ∀ e ∈ entities, e.head? = some '&' ∧ '&' ∉ e.tail := by decide

theorem eq_nil_of_entity {e before after : List Char} (hEntity : e ∈ entities)
    (h : e = before ++ '&' :: after) : before = [] := by
  cases before with
  | nil => rfl
  | cons c before =>
    have hTail := (ampersand_of_mem_entities e hEntity).2
    rw [h] at hTail
    exact absurd (List.mem_append_right before List.mem_cons_self) hTail

/-- An ampersand in an escaped text is the first character of an entity. -/
theorem entity_of_escapeChars {s before after : List Char}
    (h : escapeChars s = before ++ '&' :: after) : ∃ e ∈ entities, e <+: '&' :: after := by
  induction s generalizing before with
  | nil => simp [escapeChars] at h
  | cons c rest ih =>
    rw [escapeChars_cons, List.append_eq_append_iff] at h
    rcases h with ⟨more, _, hRest⟩ | ⟨more, hHere, hRest⟩
    · exact ih hRest
    · cases more with
      | nil =>
        rw [List.nil_append] at hRest
        exact ih (hRest.symm.trans (List.nil_append _).symm)
      | cons d more =>
        cases (List.cons.inj hRest).1
        rcases escapeChar_cases c with ⟨hEntity, _⟩ | ⟨hSelf, hMark, _⟩
        · cases eq_nil_of_entity hEntity hHere
          exact ⟨_, hEntity, escapeChars rest, by rw [hRest, hHere, List.nil_append]⟩
        · have hMem : '&' ∈ [c] := by
            rw [← hSelf, hHere]
            exact List.mem_append_right before List.mem_cons_self
          exact absurd (List.mem_singleton.mp hMem).symm hMark

/-- How a text stands in a page: without marks, and so that it can be read back. -/
structure IsEscaped (slot text : List Char) : Prop where
  marks : ∀ c ∈ slot, c ≠ '<' ∧ c ≠ '>' ∧ c ≠ '"' ∧ c ≠ '\''
  ampersands : ∀ before after, slot = before ++ '&' :: after → ∃ e ∈ entities, e <+: '&' :: after
  unescaped : unescapeChars slot = text

theorem isEscaped_escapeChars (s : List Char) : IsEscaped (escapeChars s) s where
  marks c hMem := by simpa [isMark, and_assoc] using isMark_of_mem_escapeChars hMem
  ampersands _ _ := entity_of_escapeChars
  unescaped := unescapeChars_escapeChars s

end PageCheck.Markup
