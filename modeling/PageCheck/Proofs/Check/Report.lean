import Mathlib.Data.List.Nodup
import PageCheck.Proofs.Check.Outcome
import PageCheck.Proofs.Fetch.Outcome
import PageCheck.Proofs.SpecFile.Numbers

/-!
# Reports of runs

A report has one result for each line, in the order of the lines. Lines with the same number share
the result of the last of them that can be read. The lines of a file have different numbers, so
there each line has the result of its own check, wherever the line stands.
-/

namespace PageCheck

set_option autoImplicit false

namespace Run

variable {pages : Pages} {lines : List SpecLine}

/-- The last line that can be read among those with a number is a line of the specification. -/
def IsLastValid (lines : List SpecLine) (number : Int) (spec : Spec) : Prop :=
  ∃ before last after, lines = before ++ last :: after ∧ last.number = number ∧
    last.outcome = .ok spec ∧ ∀ line ∈ after, line.number = number → line.isValid = false

theorem IsLastValid.exists_mem {number : Int} {spec : Spec} (h : IsLastValid lines number spec) :
    ∃ last ∈ lines, last.number = number ∧ last.outcome = .ok spec := by
  obtain ⟨before, last, after, rfl, hNumber, hOutcome, _⟩ := h
  exact ⟨last, by simp, hNumber, hOutcome⟩

theorem isValid_of_outcome {line : SpecLine} {spec : Spec} (h : line.outcome = .ok spec) :
    line.isValid = true := by
  rw [SpecLine.isValid, h]

theorem exists_isLastValid {line : SpecLine} {spec : Spec} (hLine : line ∈ lines)
    (hOutcome : line.outcome = .ok spec) : ∃ last, IsLastValid lines line.number last := by
  induction lines generalizing line spec with
  | nil => cases hLine
  | cons first rest ih =>
    by_cases hLater : ∃ other ∈ rest, other.number = line.number ∧ other.isValid = true
    · obtain ⟨other, hOther, hNumber, hValid⟩ := hLater
      cases hFound : other.outcome with
      | error e => simp [SpecLine.isValid, hFound] at hValid
      | ok found =>
        obtain ⟨last, before, middle, after, rfl, hLast⟩ := ih hOther hFound
        rw [hNumber] at hLast
        exact ⟨last, first :: before, middle, after, rfl, hLast⟩
    · have hFirst : line = first := by
        rcases List.mem_cons.mp hLine with hEq | hRest
        · exact hEq
        · exact absurd ⟨line, hRest, rfl, isValid_of_outcome hOutcome⟩ hLater
      refine ⟨spec, [], first, rest, rfl, by rw [hFirst], hFirst ▸ hOutcome, ?_⟩
      intro other hOther hNumber
      exact Bool.eq_false_iff.mpr fun hValid => hLater ⟨other, hOther, hNumber, hValid⟩

theorem checked_append {number : Int} {spec : Spec} {last : SpecLine} {r : CheckResult}
    (before after : List SpecLine) (hNumber : last.number = number)
    (hOutcome : last.outcome = .ok spec) (hCheck : (checkSpec pages spec number).value = .ok r) :
    checked pages (before ++ last :: after) = checked pages before ++ r :: checked pages after := by
  have hValid : valid (before ++ last :: after) = valid before ++ (number, spec) :: valid after := by
    simp only [valid, List.filterMap_append, List.filterMap_cons, hOutcome, hNumber]
  have hEntry : check pages (number, spec) = .ok r := hCheck
  simp only [checked, hValid, List.map_append, List.map_cons, hEntry, results,
    List.filterMap_append, List.filterMap_cons]

theorem exists_valid_of_mem_checked {r : CheckResult} (h : r ∈ checked pages lines) :
    ∃ line ∈ lines, line.isValid = true ∧ line.number = r.line := by
  obtain ⟨outcome, hOutcome, hSome⟩ := List.mem_filterMap.mp h
  obtain ⟨⟨number, spec⟩, hEntry, rfl⟩ := List.mem_map.mp hOutcome
  obtain ⟨line, hLine, rfl, hFound⟩ := mem_valid.mp hEntry
  split at hSome
  · rename_i result hResult
    cases hSome
    exact ⟨line, hLine, isValid_of_outcome hFound, (line_of_checkSpec hResult).symm⟩
  · cases hSome

theorem find?_checked {number : Int} {spec : Spec} {r : CheckResult}
    (h : IsLastValid lines number spec) (hCheck : (checkSpec pages spec number).value = .ok r) :
    (checked pages lines).reverse.find? (fun result => result.line == number) = some r := by
  obtain ⟨before, last, after, rfl, hNumber, hOutcome, hAfter⟩ := h
  have hLater : (checked pages after).reverse.find? (fun result => result.line == number) = none := by
    rw [List.find?_eq_none]
    intro result hMem hEq
    obtain ⟨line, hLine, hValid, hResult⟩ :=
      exists_valid_of_mem_checked (List.mem_reverse.mp hMem)
    have hInvalid := hAfter line hLine (hResult.trans (beq_iff_eq.mp hEq))
    rw [hValid] at hInvalid
    cases hInvalid
  have hHere : (r.line == number) = true := beq_iff_eq.mpr (line_of_checkSpec hCheck)
  rw [checked_append before after hNumber hOutcome hCheck, List.reverse_append, List.reverse_cons,
    List.find?_append, List.find?_append, hLater, Option.none_or, List.find?_singleton, hHere]
  rfl

/-- What a run shows for a line. -/
def ResultFor (pages : Pages) (lines : List SpecLine) (line : SpecLine) (result : CheckResult) :
    Prop :=
  match line.outcome with
  | .error e =>
    result = ⟨line.number, String.ofList (Text.before '|' line.text.toList), line.text, .invalid,
      e.message⟩
  | .ok _ => ∃ spec, IsLastValid lines line.number spec ∧
      (checkSpec pages spec line.number).value = .ok result

theorem resultOf?_checked (h : ChecksReturn pages lines) {line : SpecLine} (hLine : line ∈ lines) :
    ∃ result, resultOf? (checked pages lines) line = some result ∧
      ResultFor pages lines line result := by
  cases hOutcome : line.outcome with
  | error e =>
    refine ⟨.ofInvalid line e, ?_, ?_⟩
    · rw [resultOf?, hOutcome]
    · rw [ResultFor, hOutcome]
      rfl
  | ok spec =>
    obtain ⟨last, hLast⟩ := exists_isLastValid hLine hOutcome
    obtain ⟨found, hFound, hNumber, hRead⟩ := hLast.exists_mem
    obtain ⟨result, hCheck⟩ := h found hFound last hRead
    rw [hNumber] at hCheck
    refine ⟨result, ?_, ?_⟩
    · rw [resultOf?, hOutcome]
      exact find?_checked hLast hCheck
    · rw [ResultFor, hOutcome]
      exact ⟨last, hLast, hCheck⟩

theorem exists_resultOf (h : ChecksReturn pages lines) :
    ∃ resultOf : SpecLine → CheckResult,
      (runChecks pages lines).value = .ok ⟨lines.map resultOf⟩ ∧
        ∀ line ∈ lines, ResultFor pages lines line (resultOf line) := by
  have hEach : ∀ line, ∃ result, line ∈ lines →
      resultOf? (checked pages lines) line = some result ∧ ResultFor pages lines line result := by
    intro line
    by_cases hLine : line ∈ lines
    · obtain ⟨result, hResult⟩ := resultOf?_checked h hLine
      exact ⟨result, fun _ => hResult⟩
    · exact ⟨⟨0, "", "", .error, ""⟩, fun hMem => absurd hMem hLine⟩
  obtain ⟨resultOf, hResultOf⟩ := Classical.skolem.mp hEach
  refine ⟨resultOf, ?_, fun line hLine => (hResultOf line hLine).2⟩
  have hResults : lines.filterMap (resultOf? (checked pages lines)) = lines.map resultOf := by
    rw [← List.filterMap_eq_map]
    exact List.filterMap_congr fun line hLine => (hResultOf line hLine).1
  rw [value_runChecks_of_checksReturn h, report, hResults]

def OwnResult (pages : Pages) (line : SpecLine) (result : CheckResult) : Prop :=
  match line.outcome with
  | .error e => result = .ofInvalid line e
  | .ok spec => (checkSpec pages spec line.number).value = .ok result

theorem OwnResult.unique {line : SpecLine} {a b : CheckResult} (ha : OwnResult pages line a)
    (hb : OwnResult pages line b) : a = b := by
  unfold OwnResult at ha hb
  cases hOutcome : line.outcome with
  | error e =>
    rw [hOutcome] at ha hb
    exact ha.trans hb.symm
  | ok spec =>
    rw [hOutcome] at ha hb
    exact Except.ok.inj (ha.symm.trans hb)

theorem ResultFor.own (hNumbers : (lines.map SpecLine.number).Nodup) {line : SpecLine}
    {result : CheckResult} (hLine : line ∈ lines) (h : ResultFor pages lines line result) :
    OwnResult pages line result := by
  unfold ResultFor at h
  unfold OwnResult
  split
  · rename_i e hOutcome
    rw [hOutcome] at h
    exact h
  · rename_i spec hOutcome
    rw [hOutcome] at h
    obtain ⟨last, hLast, hCheck⟩ := h
    obtain ⟨found, hFound, hNumber, hRead⟩ := hLast.exists_mem
    -- Numbers are not repeated, so the last line with this number is the line itself.
    have hSame : found = line := List.inj_on_of_nodup_map hNumbers hFound hLine hNumber
    rw [hSame, hOutcome] at hRead
    cases hRead
    exact hCheck

theorem ChecksReturn.perm {other : List SpecLine} (h : ChecksReturn pages lines)
    (hPerm : other.Perm lines) : ChecksReturn pages other := fun line hLine spec hOutcome =>
  h line (hPerm.mem_iff.mp hLine) spec hOutcome

end Run

theorem CheckReport.counts_of_perm {a b : CheckReport} (h : a.results.Perm b.results) :
    a.matched = b.matched ∧ a.failed = b.failed ∧ a.summary = b.summary := by
  have hMatched : a.matched = b.matched := h.countP_eq _
  have hCount : a.count = b.count := by
    funext status
    exact h.countP_eq _
  refine ⟨hMatched, ?_, ?_⟩
  · rw [failed, failed, hMatched, h.length_eq]
  · rw [summary, summary, hCount, h.length_eq]

namespace Run

variable {pages : Pages} {lines : List SpecLine}

theorem exists_resultOf_perm (h : ChecksReturn pages lines)
    (hNumbers : (lines.map SpecLine.number).Nodup) :
    ∃ resultOf : SpecLine → CheckResult, (∀ line ∈ lines, OwnResult pages line (resultOf line)) ∧
      ∀ other, other.Perm lines → (runChecks pages other).value = .ok ⟨other.map resultOf⟩ := by
  obtain ⟨resultOf, _, hResultOf⟩ := exists_resultOf h
  refine ⟨resultOf, fun line hLine => (hResultOf line hLine).own hNumbers hLine, ?_⟩
  intro other hPerm
  have hOtherNumbers : (other.map SpecLine.number).Nodup :=
    (hPerm.map SpecLine.number).nodup_iff.mpr hNumbers
  obtain ⟨otherOf, hRun, hOtherOf⟩ := exists_resultOf (h.perm hPerm)
  have hSame : other.map otherOf = other.map resultOf := by
    apply List.map_congr_left
    intro line hOther
    have hLine : line ∈ lines := hPerm.mem_iff.mp hOther
    exact ((hOtherOf line hOther).own hOtherNumbers hOther).unique
      ((hResultOf line hLine).own hNumbers hLine)
  rw [hRun, hSame]

theorem url_of_ownResult {limit : Int} {text : String} {line : SpecLine} {result : CheckResult}
    (hLine : line ∈ SpecFile.linesOf limit text.toList) (h : OwnResult pages line result) :
    result.url = String.ofList (Text.before '|' line.text.toList) := by
  unfold OwnResult at h
  split at h
  · rw [h]
    rfl
  · rename_i spec hOutcome
    obtain ⟨status, detail, _, rfl⟩ := eq_ofStatus_of_checkSpec h
    exact SpecFile.url_of_mem_linesOf hLine hOutcome

/-- If every check gives a result, the run shows one result for each line. Lines of a file have the
results of their own checks, and these move along when the lines are put into another order. -/
theorem runChecks_shows (pages : Pages) (lines : List SpecLine) (h : ChecksReturn pages lines) :
    (∃ report, (runChecks pages lines).value = .ok report ∧
      report.results.length = lines.length ∧
      ∀ (i : Nat) (line : SpecLine), lines[i]? = some line →
        ∃ result, report.results[i]? = some result ∧ ResultFor pages lines line result) ∧
    ∀ (limit : Int) (text : String), (SpecFile.read limit text).value = .ok lines →
      ∃ resultOf : SpecLine → CheckResult,
        (∀ line ∈ lines, OwnResult pages line (resultOf line) ∧
          (resultOf line).url = String.ofList (Text.before '|' line.text.toList)) ∧
        (runChecks pages lines).value = .ok ⟨lines.map resultOf⟩ ∧
        ∀ other : List SpecLine, other.Perm lines →
          (runChecks pages other).value = .ok ⟨other.map resultOf⟩ ∧
          (⟨other.map resultOf⟩ : CheckReport).matched = (⟨lines.map resultOf⟩ : CheckReport).matched ∧
          (⟨other.map resultOf⟩ : CheckReport).failed = (⟨lines.map resultOf⟩ : CheckReport).failed ∧
          (⟨other.map resultOf⟩ : CheckReport).summary =
            (⟨lines.map resultOf⟩ : CheckReport).summary := by
  constructor
  · obtain ⟨resultOf, hRun, hResultOf⟩ := exists_resultOf h
    refine ⟨⟨lines.map resultOf⟩, hRun, List.length_map _, ?_⟩
    intro i line hLine
    refine ⟨resultOf line, ?_, hResultOf line (List.mem_of_getElem? hLine)⟩
    rw [List.getElem?_map, hLine]
    rfl
  · intro limit text hRead
    cases SpecFile.eq_linesOf_of_read hRead
    obtain ⟨resultOf, hOwn, hRun⟩ := exists_resultOf_perm h SpecFile.nodup_numbers_linesOf
    refine ⟨resultOf, ?_, hRun _ (List.Perm.refl _), ?_⟩
    · intro line hLine
      exact ⟨hOwn line hLine, url_of_ownResult hLine (hOwn line hLine)⟩
    · intro other hPerm
      exact ⟨hRun other hPerm, CheckReport.counts_of_perm (hPerm.map resultOf)⟩

/-- The first and the third line share a number, and the result shown for both is that of the third;
the file has a blank line and one that cannot be read. -/
theorem runChecks_shows_missing :
    let pages : Pages := ⟨[("u", .answer 404 (.text ""))]⟩
    let repeated : List SpecLine := [⟨1, "", .ok ⟨"u", .contentMatches "a"⟩⟩,
      ⟨2, "b|", .error ⟨.call, "", none⟩⟩, ⟨1, "", .ok ⟨"u", .contentMatches "c"⟩⟩]
    let text := "u|element_matches(p,not(content_matches(x)))\n \nu|"
    let file := SpecFile.linesOf 1 text.toList
    ChecksReturn pages repeated ∧
      (∃ report, (runChecks pages repeated).value = .ok report ∧ report.results.length = 3) ∧
      ChecksReturn pages file ∧ (SpecFile.read 1 text).value = .ok file ∧
      ∃ resultOf : SpecLine → CheckResult, ∀ other : List SpecLine, other.Perm file →
        (runChecks pages other).value = .ok ⟨other.map resultOf⟩ := by
  intro pages repeated text file
  have hMissing : ∀ (spec : Spec) (number : Int), spec.url = "u" →
      ∃ r, (checkSpec pages spec number).value = .ok r := by
    rintro ⟨url, predicate⟩ number rfl
    have hFetch : (fetch pages "u").value = .error (.failed (.ofStatus "u" 404)) :=
      Fetch.value_fetch_iff.mpr (.refused (by decide) (by decide +kernel))
    exact ⟨_, value_checkSpec_of_failed ⟨"u", predicate⟩ number hFetch⟩
  have hRepeated : ChecksReturn pages repeated := by
    intro line hLine spec hOutcome
    have hUrl : ∀ entry ∈ valid repeated, entry.2.url = "u" := by decide
    exact hMissing spec line.number (hUrl _ (mem_valid.mpr ⟨line, hLine, rfl, hOutcome⟩))
  have hFile : ChecksReturn pages file := by
    intro line hLine spec hOutcome
    have hBefore : ∀ line ∈ file, String.ofList (Text.before '|' line.text.toList) = "u" := by decide
    exact hMissing spec line.number ((SpecFile.url_of_mem_linesOf hLine hOutcome).trans (hBefore line hLine))
  obtain ⟨report, hReport, hLength, _⟩ := (runChecks_shows pages repeated hRepeated).1
  have hSize : (Text.lines text.toList).length < Nat.pow 10 Text.digitLimit :=
    Text.lt_pow_of_lt_ten (by decide)
  have hRead : (SpecFile.read 1 text).value = .ok file :=
    congrArg Logged.value (SpecFile.read_of_short (Text.isLong_of_lt_ten (by decide)) hSize)
  obtain ⟨resultOf, _, _, hRun⟩ := (runChecks_shows pages file hFile).2 1 text hRead
  exact ⟨hRepeated, ⟨report, hReport, hLength⟩, hFile, hRead, resultOf,
    fun other hPerm => (hRun other hPerm).1⟩

end Run

end PageCheck
