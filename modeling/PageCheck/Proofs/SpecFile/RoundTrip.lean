import PageCheck.Proofs.Predicate.RoundTrip
import PageCheck.Proofs.SpecFile.Numbers
import PageCheck.Proofs.Text.Lines

/-!
# Files written from specifications

A specification is written as its URL, a bar and the text of its predicate. Whole files of such
lines are read back as long as no part of a line holds a character that means something to one of
the layers: a line end, a bar, or a comma inside a literal.
-/

namespace PageCheck

set_option autoImplicit false

open Text (isLineEnd)

namespace Spec

def written (spec : Spec) : List Char :=
  spec.url.toList ++ '|' :: spec.predicate.expression.toList

/-- Specifications that a line of a file can hold. -/
structure IsWritable (limit : Int) (spec : Spec) : Prop where
  site : spec.predicate.IsSite
  url : ∀ c ∈ spec.url.toList, c ≠ '|' ∧ isLineEnd c = false
  nonempty : ∀ l ∈ spec.predicate.literals, l ≠ ""
  literals : ∀ l ∈ spec.predicate.literals, ∀ c ∈ l.toList,
    c ≠ ',' ∧ c ≠ '|' ∧ isLineEnd c = false
  nesting : (spec.predicate.nesting : Int) ≤ max limit 0

variable {limit : Int} {spec : Spec}

theorem mark_notMem_expression {c : Char} (hc : c ∉ Predicate.siteMarks) (hSite : spec.predicate.IsSite)
    (hLiterals : ∀ l ∈ spec.predicate.literals, c ∉ l.toList) :
    c ∉ spec.predicate.expression.toList := by
  intro hMem
  obtain ⟨l, hl, hMem⟩ := (Predicate.mem_expression_of_isSite hc hSite).mp hMem
  exact hLiterals l hl hMem

theorem isLineEnd_siteMarks : ∀ c ∈ Predicate.siteMarks, isLineEnd c = false := by decide

theorem isLineEnd_written (h : spec.IsWritable limit) : ∀ c ∈ spec.written, isLineEnd c = false := by
  intro c hMem
  rcases List.mem_append.mp hMem with hUrl | hRest
  · exact (h.url c hUrl).2
  · rcases List.mem_cons.mp hRest with rfl | hText
    · decide
    · by_cases hc : c ∈ Predicate.siteMarks
      · exact isLineEnd_siteMarks c hc
      · obtain ⟨l, hl, hMem⟩ := (Predicate.mem_expression_of_isSite hc h.site).mp hText
        exact (h.literals l hl c hMem).2.2

theorem bar_mem_written (spec : Spec) : '|' ∈ spec.written := by simp [written]

theorem splitAt_written (h : spec.IsWritable limit) : Text.splitAt '|' spec.written =
    [spec.url.toList, spec.predicate.expression.toList] := by
  apply Text.splitAt_eq_pair_iff.mpr
  refine ⟨rfl, fun hMem => (h.url '|' hMem).1 rfl, ?_⟩
  apply mark_notMem_expression (by decide) h.site
  intro l hl hMem
  exact (h.literals l hl '|' hMem).2.1 rfl

theorem read_written (h : spec.IsWritable limit) (number : Option Int) :
    read limit number spec.written = .ok spec := by
  have hComma : ∀ l ∈ spec.predicate.literals, ',' ∉ l.toList := fun l hl hMem =>
    (h.literals l hl ',' hMem).1 rfl
  have hSame : spec.predicate.mapLiterals Predicate.reread = spec.predicate :=
    (Predicate.mapLiterals_eq_self_iff _ _).mpr fun l hl =>
      (Predicate.reread_eq_self_iff l).mpr (h.nonempty l hl)
  rw [read, splitAt_written h]
  simp only [Predicate.readSite_expression h.site hComma h.nesting, hSame, String.ofList_toList]

end Spec

namespace SpecFile

theorem numbered_of_not_blank {ls : List (List Char)} (number : Int)
    (h : ∀ line ∈ ls, Text.isBlankText line = false) :
    numbered number ls = ls.mapIdx fun i line => (number + i, line) := by
  induction ls generalizing number with
  | nil => rfl
  | cons line rest ih =>
    have hShift : (fun (i : Nat) (line : List Char) => (number + 1 + (i : Int), line)) =
        fun i line => (number + ((i + 1 : Nat) : Int), line) := by
      funext i line
      rw [Int.natCast_add, Int.add_assoc, Int.add_comm 1 (i : Int)]
      rfl
    rw [numbered, h line List.mem_cons_self, List.mapIdx_cons,
      ih (number + 1) fun l hl => h l (List.mem_cons_of_mem _ hl), hShift]
    simp

theorem isBlankText_of_bar_mem {line : List Char} (h : '|' ∈ line) :
    Text.isBlankText line = false := by
  rw [Text.isBlankText, List.all_eq_false]
  exact ⟨'|', h, by decide⟩

theorem linesOf_of_lines_eq {limit : Int} {specs : List Spec} {text : List Char}
    (h : ∀ spec ∈ specs, spec.IsWritable limit) (hLines : Text.lines text = specs.map Spec.written) :
    linesOf limit text =
      specs.mapIdx fun i spec => ⟨i + 1, String.ofList spec.written, .ok spec⟩ := by
  have hBlank : ∀ line ∈ specs.map Spec.written, Text.isBlankText line = false := by
    intro line hLine
    obtain ⟨spec, _, rfl⟩ := List.mem_map.mp hLine
    exact isBlankText_of_bar_mem (Spec.bar_mem_written spec)
  rw [linesOf, hLines, numbered_of_not_blank 1 hBlank]
  apply List.ext_getElem?
  intro i
  rw [List.getElem?_map, List.getElem?_mapIdx, List.getElem?_map, List.getElem?_mapIdx]
  cases hSpec : specs[i]? with
  | none => rfl
  | some spec =>
    have hRead := Spec.read_written (h spec (List.mem_of_getElem? hSpec)) (some ((i : Int) + 1))
    simp only [Option.map_some, SpecLine.ofText, Int.add_comm 1, hRead]

theorem read_of_lines_eq {limit : Int} {specs : List Spec} {text : List Char}
    (h : ∀ spec ∈ specs, spec.IsWritable limit) (hLines : Text.lines text = specs.map Spec.written) :
    (read limit (String.ofList text)).value =
      .ok (specs.mapIdx fun i spec => ⟨i + 1, String.ofList spec.written, .ok spec⟩) := by
  have hAll := linesOf_of_lines_eq h hLines
  rw [← String.toList_ofList (l := text)] at hAll
  rw [read_of_isWritable, hAll]
  intro line hLine
  rw [hAll] at hLine
  obtain ⟨i, _, rfl⟩ := List.mem_mapIdx.mp hLine
  rfl

/-- A file of writable specifications is read back whole, whatever breaks are between its lines. -/
theorem read_join (limit : Int) (specs : List Spec) (h : ∀ spec ∈ specs, spec.IsWritable limit)
    (breaks : Nat → Text.LineBreak) (final : Option Text.LineBreak) :
    (read limit (String.ofList
        (Text.join breaks (specs.map Spec.written) ++ Text.ending final))).value =
      .ok (specs.mapIdx fun i spec => ⟨i + 1, String.ofList spec.written, .ok spec⟩) := by
  cases hSpecs : specs with
  | nil =>
    have hNone : linesOf limit (String.ofList (Text.ending final)).toList = [] := by
      rw [String.toList_ofList]
      cases final with
      | none => rfl
      | some b => cases b <;> rfl
    have hAll : ∀ line ∈ linesOf limit (String.ofList (Text.ending final)).toList, line.isWritable = true := by
      rw [hNone]
      exact nofun
    exact (congrArg Logged.value (read_of_isWritable hAll)).trans (congrArg Except.ok hNone)
  | cons spec others =>
    rw [← hSpecs]
    apply read_of_lines_eq h
    apply Text.lines_join breaks final
    · simp [hSpecs]
    · intro line hLine
      obtain ⟨spec, _, rfl⟩ := List.mem_map.mp hLine
      exact List.ne_nil_of_mem (Spec.bar_mem_written spec)
    · intro line hLine
      obtain ⟨spec, hMem, rfl⟩ := List.mem_map.mp hLine
      exact Spec.isLineEnd_written (h spec hMem)

theorem read_join_two :
    let first : Spec := ⟨"", .elementMatches "a'(b" (.contentMatches " x)\t")⟩
    let second : Spec := ⟨"b,'", .elementMatches "p" (.negation (.contentMatches "not('y')"))⟩
    (∀ spec ∈ [first, second], spec.IsWritable 1) ∧
      (read 1 (String.ofList
        (Text.join (fun _ => .carriage) ([first, second].map Spec.written) ++ Text.ending none))).value =
          .ok [⟨1, String.ofList first.written, .ok first⟩,
            ⟨2, String.ofList second.written, .ok second⟩] := by
  intro first second
  have hWritable : ∀ spec ∈ [first, second], spec.IsWritable 1 := by
    rintro spec (_ | ⟨_, _ | ⟨_, hNone⟩⟩)
    · exact ⟨trivial, by decide, by decide, by decide, by decide⟩
    · exact ⟨trivial, by decide, by decide, by decide, by decide⟩
    · cases hNone
  exact ⟨hWritable, read_join 1 [first, second] hWritable (fun _ => .carriage) none⟩

end SpecFile

end PageCheck
