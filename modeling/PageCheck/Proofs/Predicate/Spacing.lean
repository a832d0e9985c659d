import Mathlib
import PageCheck.Proofs.Html.Enclosed
import PageCheck.Proofs.Predicate.Selecting

/-!
# White space in compared texts

The text of a heading is compared as it was written, with all the white space around words. White
space alone is the exception: the page keeps one character of it, and only that character matches.
-/

namespace PageCheck

set_option autoImplicit false

open Html (Builder Document Node enclosed leaves)
open Text (Code Codes)

namespace Predicate

theorem isName_h1 : Markup.isName "h1".toList = true := by decide

def headingName : Markup.Name := .of "h1" isName_h1

/-- The white space of which a document keeps one character. -/
def spaces : List Char := [' ', '\t', '\n', '\x0c', '\r']

theorem isReducible_iff {c : Char} : Builder.isReducible c = true ↔ c ∈ spaces := by
  simp only [Builder.isReducible, spaces, Bool.or_eq_true, beq_iff_eq, Code.char.injEq,
    List.mem_cons, List.not_mem_nil, or_false]
  tauto

theorem isCommon_headingName : Html.IsCommon headingName where
  raw := by decide
  void := by decide
  spaced := by decide
  keeper := by decide

theorem isPlain_of_notMem {s : List Char} (hMark : '<' ∉ s) (hReference : '&' ∉ s) :
    ∀ c ∈ s, Html.Token.isPlain c = true := by
  intro c hMem
  have hNot : c ≠ '<' ∧ c ≠ '&' :=
    ⟨fun h => hMark (h ▸ hMem), fun h => hReference (h ▸ hMem)⟩
  simpa [Html.Token.isPlain] using hNot

/-- A document that is a heading and nothing else. -/
def headed (s : Codes) : Document := ⟨[.element "h1" [] (leaves s)]⟩

theorem read_heading {s : String} (hMark : '<' ∉ s.toList) (hReference : '&' ∉ s.toList) :
    Document.read ("<h1>" ++ s ++ "</h1>") = .ok (headed s) := by
  have hText : "<h1>" ++ s ++ "</h1>" = String.ofList (enclosed headingName s.toList) := by
    rw [← String.toList_inj, String.toList_ofList, String.toList_append, String.toList_append,
      List.append_assoc]
    rfl
  rw [hText]
  exact Document.read_enclosed isCommon_headingName (isPlain_of_notMem hMark hReference)

theorem read_h1 : Selector.read "h1" = .ok (.mk false false [[.name none (some "h1")]]) := by cbv

theorem holds_of_name {p : Html.Place} (h : p.name.toLower = "h1") :
    (Selector.SelectorList.mk false false [[.name none (some "h1")]]).holds false p = true := by
  simp [Selector.SelectorList.holds, Selector.anyHolds, Selector.allHold, Selector.Condition.holds,
    Selector.spaceHolds, h]

theorem isFirst_headed (s : Codes) :
    (Selector.SelectorList.mk false false [[.name none (some "h1")]]).IsFirst (headed s)
      (.element (headed s).place [] "h1" [] (leaves s) []) := by
  have hLower : "h1".toLower = "h1" := by cbv
  exact ⟨[], [], Document.places_enclosed "h1" s, List.forall_mem_nil _, holds_of_name hLower⟩

theorem evaluateSite_contentMatches (content : String) (s : Codes) :
    (elementMatches "h1" (contentMatches content)).evaluateSite (headed s) =
      ⟨.ok (Builder.kept s == Codes.ofString content), []⟩ := by
  have hText : (Node.element "h1" [] (leaves s)).text = Builder.kept s :=
    Node.text_enclosed isCommon_headingName s
  rw [evaluateSite_of_first read_h1 (isFirst_headed s), evaluateElement, Html.Place.node, hText]
  rfl

theorem exists_mem_ofString_iff {s : String} {p : Code → Prop} :
    (∃ c ∈ Codes.ofString s, p c) ↔ ∃ c ∈ s.toList, p c := by
  simp only [Codes.ofString, Codes.ofChars, List.mem_map, exists_exists_and_eq_and]

theorem char_mem_ofString_iff {c : Char} {s : String} : Code.char c ∈ Codes.ofString s ↔ c ∈ s.toList :=
  List.mem_map_of_injective fun _ _ => Code.char.inj

theorem kept_ofString_eq_self_iff (s : String) :
    Builder.kept s = s ↔ s = "" ∨ s = " " ∨ s = "\n" ∨ ∃ c ∈ s.toList, c ∉ spaces := by
  have hEmpty : Codes.ofString s = [] ↔ s = "" := Codes.ofString_inj (t := "")
  have hSpace : Codes.ofString s = [.char ' '] ↔ s = " " := Codes.ofString_inj (t := " ")
  have hBreak : Codes.ofString s = [.char '\n'] ↔ s = "\n" := Codes.ofString_inj (t := "\n")
  rw [Builder.kept_eq_self_iff, hEmpty, hSpace, hBreak, exists_mem_ofString_iff]
  simp only [← isReducible_iff, Bool.not_eq_true]

theorem kept_ofString_eq_iff_of_ne {s t : String} (hOther : t ≠ s) :
    Builder.kept s = t ↔
      s ≠ "" ∧ (∀ c ∈ s.toList, c ∈ spaces) ∧ t = if '\n' ∈ s.toList then "\n" else " " := by
  have hEmpty : Codes.ofString s ≠ [] ↔ s ≠ "" := not_congr (Codes.ofString_inj (t := ""))
  have hAll : (∀ c ∈ Codes.ofString s, Builder.isReducible c = true) ↔ ∀ c ∈ s.toList, c ∈ spaces := by
    simp only [Codes.ofString, Codes.ofChars, List.forall_mem_map, isReducible_iff]
  rw [Builder.kept_eq_iff_of_ne (fun h => hOther (Codes.ofString_inj.mp h)), hEmpty, hAll]
  simp only [char_mem_ofString_iff]
  split
  · exact and_congr_right fun _ => and_congr_right fun _ => Codes.ofString_inj (t := "\n")
  · exact and_congr_right fun _ => and_congr_right fun _ => Codes.ofString_inj (t := " ")

/-- Every text is compared with a heading as it is written. A heading of white space alone is the
exception. -/
theorem evaluateSite_heading {s : String} (hMark : '<' ∉ s.toList) (hReference : '&' ∉ s.toList) :
    ∃ d, Document.read ("<h1>" ++ s ++ "</h1>") = .ok d ∧
      (∀ content, ∃ holds,
        (elementMatches "h1" (contentMatches content)).evaluateSite d = ⟨.ok holds, []⟩) ∧
      ((elementMatches "h1" (contentMatches s)).evaluateSite d = ⟨.ok true, []⟩ ↔
        s = "" ∨ s = " " ∨ s = "\n" ∨ ∃ c ∈ s.toList, c ∉ spaces) ∧
      ∀ content, content ≠ s →
        ((elementMatches "h1" (contentMatches content)).evaluateSite d = ⟨.ok true, []⟩ ↔
          s ≠ "" ∧ (∀ c ∈ s.toList, c ∈ spaces) ∧
            content = if '\n' ∈ s.toList then "\n" else " ") := by
  have hHolds (content : String) :
      (elementMatches "h1" (contentMatches content)).evaluateSite (headed s) = ⟨.ok true, []⟩ ↔
        Builder.kept s = content := by
    rw [evaluateSite_contentMatches]
    simp
  refine ⟨headed s, read_heading hMark hReference, fun content => ?_, ?_, fun content hOther => ?_⟩
  · exact ⟨_, evaluateSite_contentMatches content s⟩
  · rw [hHolds, kept_ofString_eq_self_iff]
  · rw [hHolds, kept_ofString_eq_iff_of_ne hOther]

theorem evaluateSite_heading_spaces : '<' ∉ "\t \n".toList ∧ '&' ∉ "\t \n".toList ∧
    ∃ d, Document.read "<h1>\t \n</h1>" = .ok d ∧
      (elementMatches "h1" (contentMatches "\t \n")).evaluateSite d ≠ ⟨.ok true, []⟩ ∧
      (elementMatches "h1" (contentMatches "\n")).evaluateSite d = ⟨.ok true, []⟩ := by
  have hMark : '<' ∉ "\t \n".toList := by decide
  have hReference : '&' ∉ "\t \n".toList := by decide
  have hSpaces : ∀ c ∈ "\t \n".toList, c ∈ spaces := by decide
  obtain ⟨d, hRead, _, hSame, hOther⟩ := evaluateSite_heading hMark hReference
  refine ⟨hMark, hReference, d, hRead, fun hHolds => ?_, ?_⟩
  · rcases hSame.mp hHolds with hText | hText | hText | ⟨c, hMem, hNot⟩
    · exact absurd hText (by decide)
    · exact absurd hText (by decide)
    · exact absurd hText (by decide)
    · exact hNot (hSpaces c hMem)
  · exact (hOther "\n" (by decide)).mpr ⟨by decide, hSpaces, by decide⟩

end Predicate

end PageCheck
