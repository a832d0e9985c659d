import Mathlib.Data.List.Forall2
import PageCheck.Proofs.SpecFile.Numbers
import PageCheck.Proofs.Text.Lines

/-!
# Lines apart from each other

What is read from a line depends on the line and its number alone. So the lines of a file that is
put behind another one are read as before, with their numbers moved on by the lines before them. A
limit that is too long to be named in an error is where lines do not stand apart.
-/

namespace PageCheck

set_option autoImplicit false

/-- The same error with the number of its line moved on. -/
def ParseError.moved (n : Int) (e : ParseError) : ParseError := { e with line := e.line.map (· + n) }

theorem Spec.read_moved (limit number n : Int) (line : List Char) :
    read limit (some (number + n)) line =
      (read limit (some number) line).mapError (ParseError.moved n) := by
  unfold read
  split
  · rename_i url predicate _
    cases Predicate.readSite limit predicate with
    | ok p => rfl
    | error e => rfl
  · rfl

theorem ParseError.message_of_line {e : ParseError} {number : Int} (h : e.line = some number) :
    e.message = "line " ++ toString number ++ ": " ++ e.fault.describe e.text := by
  rw [message, h]

theorem ParseError.message_moved {e : ParseError} {number : Int} (h : e.line = some number) (n : Int) :
    (e.moved n).message = "line " ++ toString (number + n) ++ ": " ++ e.fault.describe e.text := by
  have hMoved : (e.moved n).line = some (number + n) := by rw [moved, h, Option.map_some]
  exact message_of_line hMoved

def SpecLine.moved (n : Int) (line : SpecLine) : SpecLine :=
  ⟨line.number + n, line.text, line.outcome.mapError (ParseError.moved n)⟩

theorem SpecLine.ofText_moved (limit number n : Int) (line : List Char) :
    ofText limit (number + n) line = (ofText limit number line).moved n := by
  rw [ofText, Spec.read_moved]
  rfl

namespace SpecFile

variable {limit : Int}

theorem numbered_append (number : Int) (ls others : List (List Char)) :
    numbered number (ls ++ others) = numbered number ls ++ numbered (number + ls.length) others := by
  induction ls generalizing number with
  | nil => simp [numbered]
  | cons line rest ih =>
    have hLater : number + 1 + rest.length = number + (line :: rest).length := by
      rw [List.length_cons]
      omega
    rw [List.cons_append, numbered, numbered, ih, hLater]
    split
    · rfl
    · rfl

theorem numbered_moved (number n : Int) (ls : List (List Char)) :
    numbered (number + n) ls = (numbered number ls).map fun entry => (entry.1 + n, entry.2) := by
  induction ls generalizing number with
  | nil => rfl
  | cons line rest ih =>
    have hNext : number + n + 1 = number + 1 + n := by omega
    rw [numbered, numbered, hNext, ih]
    split
    · rfl
    · rfl

/-- The number of a line counts the lines before it, blank ones too. -/
theorem numbered_eq_zipIdx (first : Nat) (ls : List (List Char)) :
    numbered (first + 1) ls = ((ls.zipIdx first).filter fun entry => !Text.isBlankText entry.1).map
      fun entry => ((entry.2 : Int) + 1, entry.1) := by
  induction ls generalizing first with
  | nil => rfl
  | cons line rest ih =>
    have hNext : (first : Int) + 1 + 1 = ((first + 1 : Nat) : Int) + 1 := by omega
    rw [numbered, hNext, ih, List.zipIdx_cons, List.filter_cons]
    cases Text.isBlankText line with
    | true => rfl
    | false => rfl

theorem linesOf_append {a b : List Char} (h : Text.Separate a b) :
    linesOf limit (a ++ b) =
      linesOf limit a ++ (linesOf limit b).map (SpecLine.moved (Text.lines a).length) := by
  -- First the numbers go on behind the first text, then they move out of the readings of its lines.
  rw [linesOf, Text.lines_append h, numbered_append, numbered_moved, List.map_append, List.map_map]
  simp only [linesOf, List.map_map, Function.comp_def, SpecLine.ofText_moved]

theorem forall₂_complaints (lines : List SpecLine) :
    List.Forall₂ (fun line record => ∃ e, line.outcome = .error e ∧ record = ⟨.error, e.message⟩)
      (lines.filter fun line => !line.isValid) (lines.filterMap SpecLine.complaint?) := by
  induction lines with
  | nil => exact .nil
  | cons line rest ih =>
    rw [List.filter_cons, List.filterMap_cons, SpecLine.isValid, SpecLine.complaint?]
    cases hOutcome : line.outcome with
    | ok spec => exact ih
    | error e => exact .cons ⟨e, hOutcome, rfl⟩ ih

/-- What is read from a file with the given physical lines, and what the log says of it. -/
structure ReadsLines (limit : Int) (ls : List (List Char)) (lines : List SpecLine)
    (records : List Log.Record) : Prop where
  each : lines = (ls.zipIdx.filter fun entry => !Text.isBlankText entry.1).map fun entry =>
    ⟨entry.2 + 1, String.ofList entry.1, Spec.read limit (some (entry.2 + 1)) entry.1⟩
  increasing : lines.Pairwise fun a b => a.number < b.number
  numbered : ∀ line ∈ lines, ∀ e, line.outcome = .error e → e.line = some line.number
  log : ∃ complaints,
    List.Forall₂ (fun line record => ∃ e, line.outcome = .error e ∧ record = ⟨.error, e.message⟩)
      (lines.filter fun line => !line.isValid) complaints ∧
    records = complaints ++ [⟨.debug, "Parsed " ++ toString lines.length ++ " spec lines"⟩]

theorem readsLines_linesOf (limit : Int) (text : List Char) :
    ReadsLines limit (Text.lines text) (linesOf limit text)
      ((linesOf limit text).filterMap SpecLine.complaint? ++
        [⟨.debug, "Parsed " ++ toString (linesOf limit text).length ++ " spec lines"⟩]) where
  each := by
    have hNumbered := numbered_eq_zipIdx 0 (Text.lines text)
    rw [linesOf, show (1 : Int) = (0 : Nat) + 1 from rfl, hNumbered, List.map_map]
    rfl
  increasing := pairwise_linesOf
  numbered := fun _ hLine _ hOutcome => line_of_mem_linesOf hLine hOutcome
  log := ⟨_, forall₂_complaints (linesOf limit text), rfl⟩

/-- A file behind another one is read as it is by itself, with its lines counted on from those of the
other. Every file is read line by line, and the log complains of every line that cannot be read. The
limit and the numbers of the lines have to be short enough to be written. -/
theorem read_isolates (limit : Int) (hLimit : Text.isLong limit = false) :
    (∀ a b : String, Text.Separate a.toList b.toList → ∃ ls others, Text.IsCut a.toList ls ∧
      Text.IsCut b.toList others ∧ (ls.length + others.length < Nat.pow 10 Text.digitLimit →
        ∃ first second, (read limit a).value = .ok first ∧ (read limit b).value = .ok second ∧
          (read limit (a ++ b)).value = .ok (first ++ second.map (SpecLine.moved ls.length)))) ∧
    (∀ (text : String) (lines : List SpecLine) (line : SpecLine) (e : ParseError) (n : Int),
      (read limit text).value = .ok lines → line ∈ lines → line.outcome = .error e →
        ∃ reason, e.message = "line " ++ toString line.number ++ ": " ++ reason ∧
          (e.moved n).message = "line " ++ toString (line.number + n) ++ ": " ++ reason) ∧
    ∀ text : String, ∃ ls, Text.IsCut text.toList ls ∧
      (ls.length < Nat.pow 10 Text.digitLimit → ∃ lines records,
        read limit text = ⟨.ok lines, records⟩ ∧ ReadsLines limit ls lines records) := by
  refine ⟨?_, ?_, ?_⟩
  · intro a b hSeparate
    refine ⟨Text.lines a.toList, Text.lines b.toList, Text.isCut_lines _, Text.isCut_lines _, fun hSize => ?_⟩
    have hBoth : (Text.lines (a ++ b).toList).length < Nat.pow 10 Text.digitLimit := by
      rw [String.toList_append, Text.lines_append hSeparate, List.length_append]
      exact hSize
    refine ⟨linesOf limit a.toList, linesOf limit b.toList, ?_, ?_, ?_⟩
    · rw [read_of_short hLimit (Nat.lt_of_le_of_lt (Nat.le_add_right _ _) hSize)]
    · rw [read_of_short hLimit (Nat.lt_of_le_of_lt (Nat.le_add_left _ _) hSize)]
    · rw [read_of_short hLimit hBoth, String.toList_append, linesOf_append hSeparate]
  · intro text lines line e n hRead hLine hOutcome
    rw [eq_linesOf_of_read hRead] at hLine
    have hNumber := line_of_mem_linesOf hLine hOutcome
    exact ⟨_, ParseError.message_of_line hNumber, ParseError.message_moved hNumber n⟩
  · intro text
    refine ⟨_, Text.isCut_lines _, fun hSize => ?_⟩
    exact ⟨_, _, read_of_short hLimit hSize, readsLines_linesOf limit text.toList⟩

/-- The second file has one line, which cannot be read; behind two lines it is the third. -/
theorem read_isolates_third :
    let first := "u|element_matches(p,content_matches(x))\r\n\u2003\u2028"
    let e : ParseError := ⟨.spec, "v", some 1⟩
    let line : SpecLine := ⟨1, "v", .error e⟩
    Text.isLong 0 = false ∧ Text.Separate first.toList "v".toList ∧ (read 0 "v").value = .ok [line] ∧
      (∃ ls others, Text.IsCut first.toList ls ∧ Text.IsCut "v".toList others ∧
        (ls.length + others.length < Nat.pow 10 Text.digitLimit → ∃ lines more,
          (read 0 first).value = .ok lines ∧ (read 0 "v").value = .ok more ∧
          (read 0 (first ++ "v")).value = .ok (lines ++ more.map (SpecLine.moved ls.length)))) ∧
      ∃ reason, e.message = "line " ++ toString line.number ++ ": " ++ reason ∧
        (e.moved 2).message = "line " ++ toString (line.number + 2) ++ ": " ++ reason := by
  intro first e line
  have hLast : first.toList.getLast? = some '\u2028' := by decide
  have hSeparate : Text.Separate first.toList "v".toList := by
    constructor
    · intro c hMem
      cases hLast.symm.trans hMem
      decide
    · rintro ⟨hTorn, _⟩
      exact absurd (hLast.symm.trans hTorn) (by decide)
  have hZero : Text.isLong 0 = false := Text.isLong_of_lt_ten (by decide)
  have hLines : linesOf 0 "v".toList = [line] := rfl
  have hSize : (Text.lines "v".toList).length < Nat.pow 10 Text.digitLimit :=
    Text.lt_pow_of_lt_ten (by decide)
  have hRead : (read 0 "v").value = .ok [line] := by rw [read_of_short hZero hSize, hLines]
  obtain ⟨hBehind, hMessages, _⟩ := read_isolates 0 hZero
  exact ⟨hZero, hSeparate, hRead, hBehind first "v" hSeparate,
    hMessages "v" [line] line e 2 hRead List.mem_cons_self rfl⟩

/-- One line with one negation, and a limit that is negative and too long: there are no lines at all. -/
theorem read_of_long_limit :
    let limit : Int := -(Nat.pow 10 Text.digitLimit : Nat)
    read limit "u|element_matches(p,not(content_matches(x)))" = ⟨.error .longNumber, []⟩ := by
  intro limit
  let text := "u|element_matches(p,not(content_matches(x)))".toList
  let element := "not(content_matches(x))".toList
  let e : ParseError := ⟨.nesting limit, String.ofList element, some 1⟩
  have hNegative : limit ≤ 0 := Int.neg_nonpos_of_nonneg (Int.natCast_nonneg _)
  have hElement : Predicate.readElement limit 0 element =
      .error (Predicate.failure (.nesting limit) element) := by
    have hText : element = Call.written "not".toList "content_matches(x)".toList := by decide
    rw [hText, Predicate.readElement_negation (by decide) (by decide)]
    exact if_pos hNegative
  have hSite : Predicate.readSite limit "element_matches(p,not(content_matches(x)))".toList =
      .error (Predicate.failure (.nesting limit) element) := by
    have hText : "element_matches(p,not(content_matches(x)))".toList =
        Call.written "element_matches".toList (['p'] ++ ',' :: element) := by decide
    have hStrip : Text.strip element = element := by decide
    rw [hText, Predicate.readSite_written (by decide) (by decide), hStrip, hElement]
    rfl
  have hPieces : Text.splitAt '|' text = [['u'], "element_matches(p,not(content_matches(x)))".toList] := by
    decide
  have hRead : Spec.read limit (some 1) text = .error e := by
    rw [Spec.read, hPieces]
    simp only [hSite]
    rfl
  have hLong : Text.isLong limit = true := (Text.isLong_neg _).trans Text.isLong_pow
  let line : SpecLine := ⟨1, String.ofList text, .error e⟩
  have hWritable : ¬ line.isWritable = true := fun h =>
    absurd (hLong.symm.trans ((ParseError.isWritable_iff.mp h).1 limit rfl)) (by decide)
  have hNumbered : numbered 1 (Text.lines text) = [(1, text)] := by decide
  have hLines : linesOf limit text = [line] := by
    rw [linesOf, hNumbered, List.map_singleton]
    exact congrArg (fun outcome => [SpecLine.mk 1 (String.ofList text) outcome]) hRead
  rw [read, hLines, List.takeWhile_cons_of_neg hWritable]
  rfl

end SpecFile

end PageCheck
