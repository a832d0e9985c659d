import PageCheck.Proofs.Predicate.Expressible
import PageCheck.Proofs.SpecFile.Numbers
import PageCheck.Proofs.SpecFile.RoundTrip

/-!
# What a file can ask for

Each layer of a file shuts out the characters that mean something to it, and those alone: the reader
of predicates the comma in literals, that of lines the bar, and that of files the line ends. What is
left over can be written.
-/

namespace PageCheck

set_option autoImplicit false

namespace Spec

/-- The texts in a specification: its URL and its literals. -/
def parts (spec : Spec) : List String := spec.url :: spec.predicate.literals

variable {limit : Int} {number : Option Int} {line : List Char} {spec : Spec}

theorem mem_of_read (h : read limit number line = .ok spec) {part : String} (hPart : part ∈ spec.parts)
    {c : Char} (hc : c ∈ part.toList) : c ∈ line ∧ c ≠ '|' := by
  obtain ⟨text, rfl, hUrl, hText, hSite⟩ := read_eq_ok_iff.mp h
  rcases List.mem_cons.mp hPart with rfl | hLiteral
  · exact ⟨List.mem_append_left _ hc, fun hBar => hUrl (hBar ▸ hc)⟩
  · have hMem := (Predicate.mem_of_readSite hSite hLiteral hc).1
    exact ⟨List.mem_append_right _ (List.mem_cons_of_mem _ hMem), fun hBar => hText (hBar ▸ hMem)⟩

theorem isExpressible_of_read (h : read limit number line = .ok spec) :
    spec.predicate.IsExpressible limit := by
  obtain ⟨_, _, _, _, hSite⟩ := read_eq_ok_iff.mp h
  exact Predicate.isExpressible_of_readSite hSite

/-- The line needs no other characters than those of the language, a bar, and those of the parts. -/
theorem exists_line (hPredicate : spec.predicate.IsExpressible limit)
    (hBar : ∀ part ∈ spec.parts, '|' ∉ part.toList) :
    ∃ line, (∀ number, read limit number line = .ok spec) ∧ '|' ∈ line ∧
      ∀ c ∈ line, c = '|' ∨ c ∈ Predicate.siteMarks ∨ ∃ part ∈ spec.parts, c ∈ part.toList := by
  obtain ⟨text, hSite, hChars⟩ := hPredicate.exists_text
  have hParts {c : Char} (hc : c ∈ text) :
      c ∈ Predicate.siteMarks ∨ ∃ part ∈ spec.parts, c ∈ part.toList := by
    rcases hChars c hc with hMark | ⟨l, hl, hMem⟩
    · exact Or.inl hMark
    · exact Or.inr ⟨l, List.mem_cons_of_mem _ hl, hMem⟩
  have hText : '|' ∉ text := by
    intro hMem
    rcases hParts hMem with hMark | ⟨part, hPart, hMem⟩
    · exact absurd hMark (by decide)
    · exact hBar part hPart hMem
  refine ⟨spec.url.toList ++ '|' :: text, fun number => read_eq_ok_iff.mpr ?_, by simp, ?_⟩
  · exact ⟨text, rfl, hBar spec.url List.mem_cons_self, hText, hSite⟩
  · intro c hc
    rcases List.mem_append.mp hc with hUrl | hRest
    · exact Or.inr (Or.inr ⟨spec.url, List.mem_cons_self, hUrl⟩)
    · rcases List.mem_cons.mp hRest with rfl | hMem
      · exact Or.inl rfl
      · exact Or.inr (hParts hMem)

end Spec

namespace SpecFile

variable {limit : Int}

theorem linesOf_of_no_end {line : List Char} (hEnd : ∀ c ∈ line, Text.isLineEnd c = false)
    (hBar : '|' ∈ line) : linesOf limit line = [SpecLine.ofText limit 1 line] := by
  have hBlank : ∀ l ∈ [line], Text.isBlankText l = false := fun l hl =>
    List.mem_singleton.mp hl ▸ isBlankText_of_bar_mem hBar
  rw [linesOf, Text.lines_of_no_end hEnd (List.ne_nil_of_mem hBar), numbered_of_not_blank 1 hBlank]
  rfl

theorem exists_text (spec : Spec) (hPredicate : spec.predicate.IsExpressible limit)
    (hParts : ∀ part ∈ spec.parts, ∀ c ∈ part.toList, c ≠ '|' ∧ Text.isLineEnd c = false) :
    ∃ text lines, (read limit text).value = .ok lines ∧ ∃ line ∈ lines, line.outcome = .ok spec := by
  have hBars : ∀ part ∈ spec.parts, '|' ∉ part.toList := fun part hPart hMem =>
    (hParts part hPart '|' hMem).1 rfl
  obtain ⟨line, hRead, hBar, hChars⟩ := Spec.exists_line hPredicate hBars
  have hEnd : ∀ c ∈ line, Text.isLineEnd c = false := by
    intro c hc
    rcases hChars c hc with rfl | hMark | ⟨part, hPart, hMem⟩
    · decide
    · exact Spec.isLineEnd_siteMarks c hMark
    · exact (hParts part hPart c hMem).2
  have hLines : linesOf limit (String.ofList line).toList = [SpecLine.ofText limit 1 line] := by
    rw [String.toList_ofList]
    exact linesOf_of_no_end hEnd hBar
  have hWritable : ∀ l ∈ linesOf limit (String.ofList line).toList, l.isWritable = true := by
    intro l hl
    rw [hLines] at hl
    rw [List.mem_singleton.mp hl, SpecLine.isWritable, SpecLine.ofText, hRead (some 1)]
  refine ⟨String.ofList line, [SpecLine.ofText limit 1 line], ?_, _, List.mem_cons_self, hRead (some 1)⟩
  rw [read_of_isWritable hWritable, hLines]

/-- What a text, a line and a file can express. The empty literal is no exception. -/
theorem read_expresses (limit : Int) :
    (∀ p : Predicate, (∃ text, Predicate.readSite limit text = .ok p) ↔ p.IsExpressible limit) ∧
    (∀ (spec : Spec) (number : Option Int), (∃ line, Spec.read limit number line = .ok spec) ↔
      spec.predicate.IsExpressible limit ∧ ∀ part ∈ spec.parts, '|' ∉ part.toList) ∧
    ∀ spec : Spec, (∃ text lines, (read limit text).value = .ok lines ∧
      ∃ line ∈ lines, line.outcome = .ok spec) ↔
      spec.predicate.IsExpressible limit ∧
        ∀ part ∈ spec.parts, ∀ c ∈ part.toList, c ≠ '|' ∧ Text.isLineEnd c = false := by
  refine ⟨?_, ?_, ?_⟩
  · intro p
    constructor
    · rintro ⟨text, h⟩
      exact Predicate.isExpressible_of_readSite h
    · intro h
      obtain ⟨text, hSite, _⟩ := h.exists_text
      exact ⟨text, hSite⟩
  · intro spec number
    constructor
    · rintro ⟨line, h⟩
      exact ⟨Spec.isExpressible_of_read h, fun part hPart hMem => (Spec.mem_of_read h hPart hMem).2 rfl⟩
    · rintro ⟨hPredicate, hBar⟩
      obtain ⟨line, hRead, _⟩ := Spec.exists_line hPredicate hBar
      exact ⟨line, hRead number⟩
  · intro spec
    constructor
    · rintro ⟨text, lines, hLines, line, hLine, hOutcome⟩
      rw [eq_linesOf_of_read hLines] at hLine
      have hRead := (outcome_of_mem_linesOf hLine).symm.trans hOutcome
      refine ⟨Spec.isExpressible_of_read hRead, fun part hPart c hc => ?_⟩
      obtain ⟨hMem, hBar⟩ := Spec.mem_of_read hRead hPart hc
      exact ⟨hBar, Text.isLineEnd_of_mem_lines (mem_lines_of_mem_linesOf hLine) c hMem⟩
    · rintro ⟨hPredicate, hParts⟩
      exact exists_text spec hPredicate hParts

/-- The empty literal has a line in some file. The line separator is in a line by itself only. -/
theorem read_expresses_empty :
    let empty : Spec := ⟨"", .elementMatches "'" (.negation (.contentMatches ""))⟩
    let torn : Spec := ⟨"", .elementMatches "p" (.contentMatches "\u2028")⟩
    (∃ text lines, (read 1 text).value = .ok lines ∧ ∃ line ∈ lines, line.outcome = .ok empty) ∧
      (∃ line, Spec.read 1 none line = .ok torn) ∧
      ¬ ∃ text lines, (read 1 text).value = .ok lines ∧ ∃ line ∈ lines, line.outcome = .ok torn := by
  intro empty torn
  obtain ⟨_, hLine, hFile⟩ := read_expresses 1
  have hEmpty : empty.predicate.IsExpressible 1 := ⟨trivial, by decide, by decide⟩
  have hTorn : torn.predicate.IsExpressible 1 := ⟨trivial, by decide, by decide⟩
  refine ⟨(hFile empty).mpr ⟨hEmpty, by decide⟩, (hLine torn none).mpr ⟨hTorn, by decide⟩, ?_⟩
  intro hText
  have hEnd := (((hFile torn).mp hText).2 "\u2028" (by decide) '\u2028' (by decide)).2
  exact absurd hEnd (by decide)

end SpecFile

end PageCheck
