import PageCheck.Html.Document.Build
import PageCheck.Html.Place
import PageCheck.Proofs.Html.Tags

/-!
# A text in an element

A text without signs of markup between the tags of an element is read as that element with at most one
string in it. The string is the text, unless the text is white space alone.
-/

namespace PageCheck.Html

set_option autoImplicit false

open Markup (Mark Name)
open Text (Code Codes)

variable {name : Name}

/-! White space -/

namespace Builder

variable {s : Codes}

/-- What an element keeps of the text in it. -/
def kept (s : Codes) : Codes := if s.isEmpty then [] else reduce s

theorem kept_of_reducible (hSome : s ≠ []) (hAll : ∀ c ∈ s, isReducible c = true) :
    kept s = if Code.char '\n' ∈ s then [Code.char '\n'] else [Code.char ' '] := by
  rw [kept, if_neg (by simpa using hSome), reduce, if_pos (List.all_eq_true.mpr hAll)]
  simp only [List.contains_iff_mem]

theorem kept_of_not_reducible (h : ∃ c ∈ s, isReducible c = false) : kept s = s := by
  have hSome : s ≠ [] := by
    rintro rfl
    obtain ⟨c, hMem, _⟩ := h
    cases hMem
  rw [kept, if_neg (by simpa using hSome), reduce, if_neg]
  simpa using h

theorem kept_cases (s : Codes) :
    s = [] ∨ (s ≠ [] ∧ ∀ c ∈ s, isReducible c = true) ∨ ∃ c ∈ s, isReducible c = false := by
  by_cases hSome : s = []
  · exact Or.inl hSome
  · by_cases hAll : ∀ c ∈ s, isReducible c = true
    · exact Or.inr (Or.inl ⟨hSome, hAll⟩)
    · exact Or.inr (Or.inr (by simpa using hAll))

theorem kept_eq_self_iff :
    kept s = s ↔ s = [] ∨ s = [Code.char ' '] ∨ s = [Code.char '\n'] ∨ ∃ c ∈ s, isReducible c = false := by
  rcases kept_cases s with rfl | ⟨hSome, hAll⟩ | hOther
  · exact iff_of_true rfl (Or.inl rfl)
  · have hNone : ¬ ∃ c ∈ s, isReducible c = false := by
      rintro ⟨c, hMem, hNot⟩
      rw [hAll c hMem] at hNot
      cases hNot
    rw [kept_of_reducible hSome hAll, or_iff_right hSome, or_iff_left hNone]
    constructor
    · intro h
      split at h
      · exact Or.inr h.symm
      · exact Or.inl h.symm
    · rintro (rfl | rfl)
      · rw [if_neg (by decide)]
      · rw [if_pos List.mem_cons_self]
  · exact iff_of_true (kept_of_not_reducible hOther) (Or.inr (Or.inr (Or.inr hOther)))

theorem kept_eq_iff_of_ne {t : Codes} (hOther : t ≠ s) :
    kept s = t ↔ s ≠ [] ∧ (∀ c ∈ s, isReducible c = true) ∧ t = if Code.char '\n' ∈ s then [Code.char '\n'] else [Code.char ' '] := by
  rcases kept_cases s with rfl | ⟨hSome, hAll⟩ | hMixed
  · exact iff_of_false (fun h => hOther h.symm) fun h => h.1 rfl
  · rw [kept_of_reducible hSome hAll, eq_comm]
    exact ⟨fun h => ⟨hSome, hAll, h⟩, fun h => h.2.2⟩
  · rw [kept_of_not_reducible hMixed]
    obtain ⟨c, hMem, hNot⟩ := hMixed
    refine iff_of_false (fun h => hOther h.symm) fun h => ?_
    rw [h.2.1 c hMem] at hNot
    cases hNot

end Builder

/-! Tokens -/

/-- Elements that are read by no rule of their own. -/
structure IsCommon (name : Name) : Prop where
  raw : Token.rawElements.contains name.chars = false
  void : voidElements.contains (String.ofList name.chars) = false
  spaced : spacedElements.contains (String.ofList name.chars) = false
  keeper : keepers.contains (String.ofList name.chars) = false

/-- The text between the tags of an element. -/
def enclosed (name : Name) (s : List Char) : List Char :=
  (Mark.start name []).chars ++ (s ++ (Mark.finish name).chars)

def texts (s : List Char) : List Token := if s.isEmpty then [] else [.text s]

namespace Token

theorem scan_start (hRaw : rawElements.contains name.chars = false) (rest : List Char) :
    scan false none ((Mark.start name []).chars ++ rest) =
      (scan false none rest).map ([start ⟨name.chars, [], false⟩] ++ ·) := by
  obtain ⟨values, hValues, hStep⟩ := step_start name [] rest
  cases hValues
  rw [hRaw, if_neg Bool.false_ne_true] at hStep
  exact scan_go (by simp [Mark.chars]) hStep

theorem scan_text {s : List Char} (hText : ∀ c ∈ s, isPlain c = true) {rest : List Char}
    (hRest : ∀ c ∈ rest.head?, isPlain c = false) :
    scan false none (s ++ rest) = (scan false none rest).map (texts s ++ ·) := by
  by_cases hSome : s = []
  · subst hSome
    rw [List.nil_append]
    cases scan false none rest <;> rfl
  · rw [scan_go (by simp [hSome]) (step_run hSome hText hRest), texts, if_neg (by simpa using hSome)]

theorem scan_finish (name : Name) :
    scan false none (Mark.finish name).chars = .ok [finish name.chars] := by
  have hEnd : scan false none [] = .ok [] := by
    rw [scan]
    rfl
  have hStep : step false none (Mark.finish name).chars = .ok (.go [finish name.chars] none []) := by
    rw [← List.append_nil (Mark.finish name).chars]
    exact step_finish name
  rw [scan_go (by simp [Mark.chars]) hStep, hEnd]
  rfl

theorem ofText_enclosed {s : List Char} (hRaw : rawElements.contains name.chars = false)
    (hText : ∀ c ∈ s, isPlain c = true) :
    ofText (enclosed name s) =
      .ok (start ⟨name.chars, [], false⟩ :: (texts s ++ [finish name.chars])) := by
  have hSign : ∀ c ∈ (Mark.finish name).chars.head?, isPlain c = false := by
    rintro c ⟨⟩
    rfl
  rw [ofText, enclosed, scan_start hRaw, scan_text hText hSign, scan_finish]
  rfl

end Token

/-! The document -/

/-- The strings that come of a text. -/
def leaves (s : Codes) : List Node :=
  if s.isEmpty then [] else [.string .plain (Builder.reduce s)]

namespace Builder

/-- The builder inside an element without attributes that is not inside another one. -/
def inside (name : Name) (s : Codes) (before : List Node) : Builder :=
  ⟨[⟨String.ofList name.chars, [], before⟩], [], s, []⟩

theorem step_start (h : IsCommon name) :
    empty.step (.start ⟨name.chars, [], false⟩) = inside name [] [] := by
  simp only [step, start, h.void]
  rfl

theorem foldl_texts (b : Builder) (s : List Char) :
    (texts s).foldl step b = { b with pending := b.pending ++ Codes.ofChars s } := by
  unfold texts
  split
  · rename_i hNone
    rw [List.isEmpty_iff.mp hNone, Codes.ofChars_nil, List.append_nil]
    rfl
  · rfl

theorem flush_inside (h : IsCommon name) (s : Codes) :
    (inside name s []).flush = inside name [] (leaves s) := by
  have hSpace : (inside name s []).keepsSpace = false := by
    simp only [keepsSpace, inside, List.any_cons, h.spaced, List.any_nil, Bool.or_self]
  have hKind : (inside name s []).kindHere = .plain := by
    simp only [kindHere, inside, List.find?_cons, h.keeper, List.find?_nil]
  cases s with
  | nil => rfl
  | cons c s =>
    rw [flush, if_neg (by simp [inside]), content, hSpace, if_neg Bool.false_ne_true, hKind]
    rfl

theorem closeTo_inside (name : Name) (before : List Node) :
    (inside name [] before).closeTo (String.ofList name.chars) =
      ⟨[], [.element (String.ofList name.chars) [] before.reverse], [], []⟩ := by
  simp [closeTo, inside, closeOne, add, Nat.repeat]

theorem step_finish (h : IsCommon name) (s : Codes) :
    (inside name s []).step (.finish name.chars) =
      ⟨[], [.element (String.ofList name.chars) [] (leaves s)], [], []⟩ := by
  have hReverse : (leaves s).reverse = leaves s := by
    cases s <;> rfl
  have hNone : (inside name s []).ended.contains (String.ofList name.chars) = false := rfl
  rw [step, finish, hNone, if_neg Bool.false_ne_true, flush_inside h, closeTo_inside, hReverse]

end Builder

theorem Document.read_enclosed {s : List Char} (h : IsCommon name)
    (hText : ∀ c ∈ s, Token.isPlain c = true) :
    Document.read (String.ofList (enclosed name s)) =
      .ok ⟨[.element (String.ofList name.chars) [] (leaves (Codes.ofChars s))]⟩ := by
  rw [Document.read, String.toList_ofList, Token.ofText_enclosed h.raw hText, Except.map,
    Document.ofTokens, List.foldl_cons, Builder.step_start h, List.foldl_append, Builder.foldl_texts]
  change Except.ok (((Builder.inside name (Codes.ofChars s) []).step (.finish name.chars)).close) = _
  rw [Builder.step_finish h]
  rfl

theorem Document.places_enclosed (name : String) (s : Codes) :
    (Document.mk [.element name [] (leaves s)]).places =
      [.element (.document [.element name [] (leaves s)]) [] name [] (leaves s) []] := by
  cases s <;> rfl

theorem Node.text_enclosed (h : IsCommon name) (s : Codes) :
    (Node.element (String.ofList name.chars) [] (leaves s)).text = Builder.kept s := by
  have hKind : StringKind.plain.countsFor (String.ofList name.chars) = true := by
    rw [StringKind.countsFor, h.keeper]
    rfl
  cases s with
  | nil => rfl
  | cons c s =>
    simp only [leaves, Builder.kept, List.isEmpty_cons, Bool.false_eq_true, if_false, Node.text,
      Node.stringsOf, Node.strings, hKind, if_true]
    rw [List.append_nil, List.flatten_singleton]

end PageCheck.Html
