import Mathlib.Data.List.TakeWhile
import PageCheck.Proofs.Predicate.Origin
import PageCheck.Proofs.Text.Split
import PageCheck.SpecFile

/-!
# Numbers of lines

The lines of a file have increasing numbers, whatever is left out between them, and the URL of a
line that can be read is what stands before its bar. A file is read as long as its limit and the
number of its last line can be written.
-/

namespace PageCheck

set_option autoImplicit false

theorem Spec.url_of_read {limit : Int} {number : Option Int} {line : List Char} {spec : Spec}
    (h : read limit number line = .ok spec) : spec.url = String.ofList (Text.before '|' line) := by
  obtain ⟨text, rfl, hUrl, _⟩ := read_eq_ok_iff.mp h
  rw [Text.before_append hUrl, String.ofList_toList]

theorem Spec.isSite_of_read {limit : Int} {number : Option Int} {line : List Char} {spec : Spec}
    (h : read limit number line = .ok spec) : spec.predicate.IsSite := by
  obtain ⟨_, _, _, _, hSite⟩ := read_eq_ok_iff.mp h
  exact Predicate.isSite_of_readSite hSite

namespace SpecFile

variable {limit : Int} {text : List Char} {line : SpecLine}

theorem le_of_mem_numbered {number : Int} {ls : List (List Char)} {entry : Int × List Char}
    (h : entry ∈ numbered number ls) : number ≤ entry.1 ∧ entry.1 < number + ls.length := by
  induction ls generalizing number with
  | nil => cases h
  | cons line rest ih =>
    rw [List.length_cons]
    rw [numbered] at h
    split at h
    · have := ih h
      omega
    · rcases List.mem_cons.mp h with rfl | h
      · dsimp only
        omega
      · have := ih h
        omega

theorem mem_of_mem_numbered {number : Int} {ls : List (List Char)} {entry : Int × List Char}
    (h : entry ∈ numbered number ls) : entry.2 ∈ ls := by
  induction ls generalizing number with
  | nil => cases h
  | cons line rest ih =>
    rw [numbered] at h
    split at h
    · exact List.mem_cons_of_mem line (ih h)
    · rcases List.mem_cons.mp h with rfl | h
      · exact List.mem_cons_self
      · exact List.mem_cons_of_mem line (ih h)

theorem pairwise_numbered (number : Int) (ls : List (List Char)) :
    (numbered number ls).Pairwise fun a b => a.1 < b.1 := by
  induction ls generalizing number with
  | nil => exact List.Pairwise.nil
  | cons line rest ih =>
    rw [numbered]
    split
    · exact ih (number + 1)
    · apply List.Pairwise.cons
      · intro entry hMem
        have := le_of_mem_numbered hMem
        show number < entry.1
        omega
      · exact ih (number + 1)

theorem pairwise_linesOf : (linesOf limit text).Pairwise fun a b => a.number < b.number :=
  List.Pairwise.map _ (fun _ _ h => h) (pairwise_numbered 1 (Text.lines text))

theorem nodup_numbers_linesOf : ((linesOf limit text).map SpecLine.number).Nodup := by
  apply List.Pairwise.map SpecLine.number _ pairwise_linesOf
  intro a b hLess hEq
  exact Int.ne_of_lt hLess hEq

theorem mem_lines_of_mem_linesOf (h : line ∈ linesOf limit text) : line.text.toList ∈ Text.lines text := by
  obtain ⟨⟨number, chars⟩, hMem, rfl⟩ := List.mem_map.mp h
  simp only [SpecLine.ofText, String.toList_ofList]
  exact mem_of_mem_numbered hMem

theorem number_of_mem_linesOf (h : line ∈ linesOf limit text) :
    1 ≤ line.number ∧ line.number ≤ (Text.lines text).length := by
  obtain ⟨entry, hMem, rfl⟩ := List.mem_map.mp h
  have := le_of_mem_numbered hMem
  dsimp only [SpecLine.ofText]
  omega

theorem outcome_of_mem_linesOf (h : line ∈ linesOf limit text) :
    line.outcome = Spec.read limit (some line.number) line.text.toList := by
  obtain ⟨⟨number, chars⟩, _, rfl⟩ := List.mem_map.mp h
  simp only [SpecLine.ofText, String.toList_ofList]

theorem url_of_mem_linesOf {spec : Spec} (h : line ∈ linesOf limit text) (hOutcome : line.outcome = .ok spec) :
    spec.url = String.ofList (Text.before '|' line.text.toList) := by
  rw [outcome_of_mem_linesOf h] at hOutcome
  exact Spec.url_of_read hOutcome

theorem line_of_mem_linesOf {e : ParseError} (h : line ∈ linesOf limit text)
    (hOutcome : line.outcome = .error e) : e.line = some line.number := by
  rw [outcome_of_mem_linesOf h] at hOutcome
  exact (Spec.blame_of_read hOutcome).2.1

/-! Files that are read -/

theorem isWritable_of_mem_linesOf (hLimit : Text.isLong limit = false)
    (hSize : (Text.lines text).length < Nat.pow 10 Text.digitLimit) (h : line ∈ linesOf limit text) :
    line.isWritable = true := by
  have hOutcome := outcome_of_mem_linesOf h
  rw [SpecLine.isWritable]
  split
  · rfl
  · rename_i e hError
    apply Spec.isWritable_of_read (hOutcome.symm.trans hError) hLimit
    rintro n ⟨⟩
    have := number_of_mem_linesOf h
    rw [Text.isLong_eq_false_iff]
    omega

variable {file : String} {lines : List SpecLine}

theorem read_of_isWritable (h : ∀ line ∈ linesOf limit file.toList, line.isWritable = true) :
    read limit file = ⟨.ok (linesOf limit file.toList),
      (linesOf limit file.toList).filterMap SpecLine.complaint? ++
        [⟨.debug, "Parsed " ++ toString (linesOf limit file.toList).length ++ " spec lines"⟩]⟩ := by
  have hAll : (linesOf limit file.toList).takeWhile SpecLine.isWritable = linesOf limit file.toList :=
    List.takeWhile_eq_self_iff.mpr h
  rw [read, hAll]
  exact if_pos rfl

theorem read_of_short (hLimit : Text.isLong limit = false)
    (hSize : (Text.lines file.toList).length < Nat.pow 10 Text.digitLimit) :
    read limit file = ⟨.ok (linesOf limit file.toList),
      (linesOf limit file.toList).filterMap SpecLine.complaint? ++
        [⟨.debug, "Parsed " ++ toString (linesOf limit file.toList).length ++ " spec lines"⟩]⟩ :=
  read_of_isWritable fun _ hLine => isWritable_of_mem_linesOf hLimit hSize hLine

/-- Whatever is read, it is all of the lines. -/
theorem eq_linesOf_of_read (h : (read limit file).value = .ok lines) : lines = linesOf limit file.toList := by
  rw [read] at h
  split at h
  · exact (Except.ok.inj h).symm
  · cases h

theorem eq_longNumber_of_read {e : LoadError} (h : (read limit file).value = .error e) : e = .longNumber := by
  rw [read] at h
  split at h
  · cases h
  · exact (Except.error.inj h).symm

end SpecFile

end PageCheck
