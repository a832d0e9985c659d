import PageCheck.Html.Token.Scan
import PageCheck.Proofs.Report.Escape
import PageCheck.Proofs.Text.Run

/-!
# Markup as a list of parts

A part is a tag with the text before it. Parts are written with their texts and the values of their
attributes escaped, and what is written determines the parts.
-/

namespace PageCheck.Markup

set_option autoImplicit false

open Html.Token (isEndNameChar)

/-- A letter, and then characters that end neither a tag nor a name, none of them capital. -/
def isName (s : List Char) : Bool :=
  s.head?.any Html.Tag.isLetter && s.all isEndNameChar && Text.lower s == s

structure Name where
  chars : List Char
  isName_chars : isName chars = true

def Name.of (s : String) (h : isName s.toList = true := by decide) : Name := ⟨s.toList, h⟩

inductive Mark where
  | start (name : Name) (attributes : List (Name × List Char))
  | finish (name : Name)

structure Part where
  before : List Char
  mark : Mark

def attributeChars (a : Name × List Char) : List Char :=
  ' ' :: (a.1.chars ++ '=' :: '"' :: (escapeChars a.2 ++ ['"']))

def Mark.chars : Mark → List Char
  | start name attributes => '<' :: (name.chars ++ (attributes.flatMap attributeChars ++ ['>']))
  | finish name => '<' :: '/' :: (name.chars ++ ['>'])

def Part.chars (part : Part) : List Char := escapeChars part.before ++ part.mark.chars

def written (parts : List Part) : List Char := parts.flatMap Part.chars

theorem written_append (a b : List Part) : written (a ++ b) = written a ++ written b :=
  List.flatMap_append

theorem written_cons (part : Part) (rest : List Part) :
    written (part :: rest) = part.chars ++ written rest := List.flatMap_cons

namespace Name

variable (name : Name)

theorem exists_letter : ∃ c rest, name.chars = c :: rest ∧ Html.Tag.isLetter c = true := by
  have hName := name.isName_chars
  cases hChars : name.chars with
  | nil =>
    rw [hChars] at hName
    cases hName
  | cons c rest =>
    simp only [isName, hChars, List.head?_cons, Option.any_some, Bool.and_eq_true] at hName
    exact ⟨c, rest, rfl, hName.1.1⟩

theorem isEndNameChar_of_mem : ∀ c ∈ name.chars, isEndNameChar c = true := by
  have hName := name.isName_chars
  simp only [isName, Bool.and_eq_true, List.all_eq_true] at hName
  exact hName.1.2

theorem lower_chars : Text.lower name.chars = name.chars := by
  have hName := name.isName_chars
  simp only [isName, Bool.and_eq_true, beq_iff_eq] at hName
  exact hName.2

theorem eq_of_chars {a b : Name} (h : a.chars = b.chars) : a = b := by
  cases a
  cases b
  cases h
  rfl

end Name

theorem head?_mark (mark : Mark) (rest : List Char) : (mark.chars ++ rest).head? = some '<' := by
  cases mark <;> rfl

variable {s t : List Char}

theorem name_inj {a b : Name} (hS : ∀ c ∈ s.head?, isEndNameChar c = false)
    (hT : ∀ c ∈ t.head?, isEndNameChar c = false) (h : a.chars ++ s = b.chars ++ t) :
    a = b ∧ s = t := by
  obtain ⟨hName, hRest⟩ :=
    Text.append_inj_of_run a.isEndNameChar_of_mem b.isEndNameChar_of_mem hS hT h
  exact ⟨Name.eq_of_chars hName, hRest⟩

/-- An escaped text before a mark can be told from what follows. -/
theorem escapeChars_inj {a b : List Char} (hS : ∀ c ∈ s.head?, isMark c = true)
    (hT : ∀ c ∈ t.head?, isMark c = true) (h : escapeChars a ++ s = escapeChars b ++ t) :
    a = b ∧ s = t := by
  have hRun (u : List Char) : ∀ c ∈ escapeChars u, (!isMark c) = true := by
    intro c hMem
    rw [isMark_of_mem_escapeChars hMem]
    rfl
  obtain ⟨hText, hRest⟩ := Text.append_inj_of_run (p := fun c => !isMark c) (hRun a) (hRun b)
    (fun c hHead => by rw [hS c hHead]; rfl) (fun c hHead => by rw [hT c hHead]; rfl) h
  exact ⟨escapeChars_injective hText, hRest⟩

theorem head?_attributes (a : List (Name × List Char)) :
    ∀ c ∈ (a.flatMap attributeChars ++ '>' :: s).head?, isEndNameChar c = false := by
  cases a with
  | nil => simp [isEndNameChar]
  | cons first rest => simp [attributeChars, isEndNameChar]

theorem attributes_inj {a b : List (Name × List Char)}
    (h : a.flatMap attributeChars ++ '>' :: s = b.flatMap attributeChars ++ '>' :: t) :
    a = b ∧ s = t := by
  induction a generalizing b with
  | nil =>
    cases b with
    | nil => exact ⟨rfl, (List.cons.inj h).2⟩
    | cons first rest => cases (List.cons.inj h).1
  | cons x a ih =>
    cases b with
    | nil => cases (List.cons.inj h).1
    | cons y b =>
      simp only [List.flatMap_cons, attributeChars, List.cons_append, List.append_assoc,
        List.cons.injEq, true_and] at h
      obtain ⟨hName, hRest⟩ := name_inj (by simp [isEndNameChar]) (by simp [isEndNameChar]) h
      simp only [List.cons.injEq, true_and] at hRest
      obtain ⟨hValue, hRest⟩ := escapeChars_inj (by simp [isMark]) (by simp [isMark]) hRest
      obtain ⟨rfl, rfl⟩ := ih (List.cons.inj hRest).2
      exact ⟨by rw [Prod.ext hName hValue], rfl⟩

theorem Mark.chars_inj {a b : Mark} (h : a.chars ++ s = b.chars ++ t) : a = b ∧ s = t := by
  cases a with
  | start name attributes =>
    cases b with
    | start other others =>
      simp only [Mark.chars, List.cons_append, List.append_assoc, List.nil_append, List.cons.injEq,
        true_and] at h
      obtain ⟨rfl, hRest⟩ := name_inj (head?_attributes _) (head?_attributes _) h
      obtain ⟨rfl, rfl⟩ := attributes_inj hRest
      exact ⟨rfl, rfl⟩
    | finish other =>
      obtain ⟨c, rest, hChars, hLetter⟩ := name.exists_letter
      simp only [Mark.chars, hChars, List.cons_append, List.cons.injEq, true_and] at h
      rw [h.1] at hLetter
      cases hLetter
  | finish name =>
    cases b with
    | start other others =>
      obtain ⟨c, rest, hChars, hLetter⟩ := other.exists_letter
      simp only [Mark.chars, hChars, List.cons_append, List.cons.injEq, true_and] at h
      rw [← h.1] at hLetter
      cases hLetter
    | finish other =>
      simp only [Mark.chars, List.cons_append, List.append_assoc, List.nil_append, List.cons.injEq,
        true_and] at h
      obtain ⟨rfl, hRest⟩ := name_inj (by simp [isEndNameChar]) (by simp [isEndNameChar]) h
      exact ⟨rfl, (List.cons.inj hRest).2⟩

theorem Part.chars_inj {a b : Part} (h : a.chars ++ s = b.chars ++ t) : a = b ∧ s = t := by
  rw [Part.chars, Part.chars, List.append_assoc, List.append_assoc] at h
  have hMark (mark : Mark) (rest : List Char) : ∀ c ∈ (mark.chars ++ rest).head?, isMark c = true := by
    rw [head?_mark]
    rintro c ⟨⟩
    rfl
  obtain ⟨hText, hRest⟩ := escapeChars_inj (hMark _ _) (hMark _ _) h
  obtain ⟨hSame, rfl⟩ := Mark.chars_inj hRest
  cases a
  cases b
  cases hText
  cases hSame
  exact ⟨rfl, rfl⟩

theorem Part.chars_ne_nil (part : Part) : part.chars ≠ [] := by
  cases hMark : part.mark <;> simp [Part.chars, hMark, Mark.chars]

/-- What is written determines the parts. -/
theorem written_injective : Function.Injective written := by
  intro a b h
  induction a generalizing b with
  | nil =>
    cases b with
    | nil => rfl
    | cons y b =>
      rw [written_cons] at h
      exact absurd (List.append_eq_nil_iff.mp h.symm).1 y.chars_ne_nil
  | cons x a ih =>
    cases b with
    | nil =>
      rw [written_cons] at h
      exact absurd (List.append_eq_nil_iff.mp h).1 x.chars_ne_nil
    | cons y b =>
      rw [written_cons, written_cons] at h
      obtain ⟨rfl, hRest⟩ := Part.chars_inj h
      rw [ih hRest]

end PageCheck.Markup
