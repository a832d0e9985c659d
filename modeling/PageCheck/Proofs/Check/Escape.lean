import PageCheck.Proofs.Check.Outcome
import PageCheck.Proofs.Fetch.Outcome

/-!
# What escapes a run

A run carries out the check of every line that can be read and writes down all of their records,
whatever some of them let out. Only then does the first thing let out stop the run, and the record of
its end is missing.
-/

namespace PageCheck

set_option autoImplicit false

variable {pages : Pages}

theorem Verdict.not_isSilence_of_stopped {spec : Spec} {stop : CheckStop}
    (hAnswer : pages.answer spec.url ≠ .silence) (h : (ofSpec pages spec).value = .stopped stop) :
    stop.isSilence = false := by
  rw [ofSpec, Logged.value_bind] at h
  cases hFetch : (fetch pages spec.url).value with
  | error failure =>
    rw [hFetch] at h
    cases failure with
    | failed e => cases h
    | escaped failure =>
      cases h
      rfl
    | silence => exact absurd (Fetch.ends_silent_iff.mp (Fetch.value_fetch_iff.mp hFetch)) hAnswer
  | ok page =>
    rw [hFetch] at h
    dsimp only [ofContent] at h
    cases hDocument : Html.Document.read page.content with
    | error fault =>
      rw [hDocument] at h
      cases h
      rfl
    | ok document =>
      rw [hDocument] at h
      change ofEvaluation (spec.predicate.evaluateSite document).value = .stopped stop at h
      unfold ofEvaluation at h
      split at h
      · cases h
      · split at h
        · cases h
        · cases h
          rfl

theorem Verdict.outcome_eq_error_iff {v : Verdict} {line : Int} {spec : Spec} {stop : CheckStop} :
    v.outcome line spec = .error stop ↔ v = .stopped stop := by
  cases v with
  | stopped other => rw [outcome, Except.error.injEq, stopped.injEq]
  | faulty detail => exact iff_of_false nofun nofun
  | decided holds => exact iff_of_false nofun nofun

namespace Run

variable {lines : List SpecLine}

/-- The check of a line lets something out instead of giving a result. -/
def LetsOut (pages : Pages) (line : SpecLine) (stop : CheckStop) : Prop :=
  ∃ spec, line.outcome = .ok spec ∧ (checkSpec pages spec line.number).value = .error stop

/-- For the page of every line that can be read there is an answer. -/
def Answered (pages : Pages) (lines : List SpecLine) : Prop :=
  ∀ line ∈ lines, ∀ spec, line.outcome = .ok spec → pages.answer spec.url ≠ .silence

/-- The records of the check of a line: none if there is nothing to check. -/
def recordsOf (pages : Pages) (line : SpecLine) : List Log.Record :=
  match line.outcome with
  | .ok spec => (checkSpec pages spec line.number).records
  | .error _ => []

def stopOf? (pages : Pages) (line : SpecLine) : Option CheckStop :=
  match line.outcome with
  | .ok spec => stop? (checkSpec pages spec line.number).value
  | .error _ => none

theorem stop?_eq_some_iff {outcome : Except CheckStop CheckResult} {stop : CheckStop} :
    stop? outcome = some stop ↔ outcome = .error stop := by
  cases outcome with
  | ok r => exact iff_of_false nofun nofun
  | error other => rw [stop?, Option.some_inj, Except.error.injEq]

theorem stopOf?_eq_some_iff {line : SpecLine} {stop : CheckStop} :
    stopOf? pages line = some stop ↔ LetsOut pages line stop := by
  unfold stopOf? LetsOut
  cases line.outcome with
  | ok spec => simp only [stop?_eq_some_iff, Except.ok.injEq, exists_eq_left']
  | error e => exact iff_of_false nofun (by rintro ⟨spec, hOk, _⟩; cases hOk)

theorem stopOf?_eq_none_iff {line : SpecLine} :
    stopOf? pages line = none ↔ ∀ stop, ¬ LetsOut pages line stop := by
  simp only [Option.eq_none_iff_forall_ne_some, ne_eq, stopOf?_eq_some_iff]

theorem valid_cons (line : SpecLine) (rest : List SpecLine) : valid (line :: rest) =
    match line.outcome with
    | .ok spec => (line.number, spec) :: valid rest
    | .error _ => valid rest := by
  rw [valid, List.filterMap_cons]
  cases line.outcome <;> rfl

theorem records_checkAll (pages : Pages) (lines : List SpecLine) :
    (checkAll pages (valid lines)).records = lines.flatMap (recordsOf pages) := by
  induction lines with
  | nil => rfl
  | cons line rest ih =>
    rw [valid_cons, List.flatMap_cons, recordsOf, ← ih]
    cases line.outcome with
    | ok spec =>
      dsimp only
      rw [checkAll, Logged.records_bind, Logged.records_bind, Logged.records_pure, List.append_nil]
    | error e => rfl

theorem length_valid (lines : List SpecLine) : (valid lines).length = lines.countP SpecLine.isValid := by
  induction lines with
  | nil => rfl
  | cons line rest ih =>
    rw [valid_cons, List.countP_cons, SpecLine.isValid]
    cases line.outcome with
    | ok spec => exact congrArg (· + 1) ih
    | error e => exact ih

theorem opening_eq (lines : List SpecLine) :
    opening lines = "Running " ++ toString (lines.countP SpecLine.isValid) ++ " checks (" ++
      toString (lines.countP fun line => !line.isValid) ++ " invalid lines)" := by
  have hCount : lines.length - lines.countP SpecLine.isValid =
      lines.countP fun line => !line.isValid := by
    rw [List.length_eq_countP_add_countP SpecLine.isValid, Nat.add_sub_cancel_left]
    simp only [Bool.not_eq_true, Bool.decide_eq_false]
  rw [opening, length_valid, hCount]

theorem filterMap_stop?_valid (pages : Pages) (lines : List SpecLine) :
    ((valid lines).map (check pages)).filterMap stop? = lines.filterMap (stopOf? pages) := by
  induction lines with
  | nil => rfl
  | cons line rest ih =>
    rw [valid_cons, List.filterMap_cons, stopOf?, ← ih]
    cases line.outcome with
    | ok spec =>
      dsimp only
      rw [List.map_cons, List.filterMap_cons]
      rfl
    | error e => rfl

/-- Where every page is answered, the first thing that is let out is what stops the run. -/
theorem firstStop?_of_answered (h : Answered pages lines) :
    firstStop? ((valid lines).map (check pages)) = lines.findSome? (stopOf? pages) := by
  have hHeard : ∀ stop ∈ lines.filterMap (stopOf? pages), (!stop.isSilence) = true := by
    intro stop hMem
    obtain ⟨line, hLine, hStop⟩ := List.mem_filterMap.mp hMem
    obtain ⟨spec, hOutcome, hCheck⟩ := stopOf?_eq_some_iff.mp hStop
    rw [value_checkSpec, Verdict.outcome_eq_error_iff] at hCheck
    rw [Bool.not_eq_true']
    exact Verdict.not_isSilence_of_stopped (h line hLine spec hOutcome) hCheck
  rw [firstStop?, filterMap_stop?_valid, ← List.head?_filterMap]
  cases hStops : lines.filterMap (stopOf? pages) with
  | nil => rfl
  | cons first rest =>
    rw [hStops] at hHeard
    have hFirst := hHeard first List.mem_cons_self
    rw [List.find?_cons, hFirst]
    rfl

theorem records_runChecks (pages : Pages) (lines : List SpecLine) :
    (runChecks pages lines).records = ⟨.info, opening lines⟩ :: lines.flatMap (recordsOf pages) ++
      match (runChecks pages lines).value with
      | .ok report => [⟨.info, closing report⟩]
      | .error _ => [] := by
  rw [value_runChecks, runChecks, Logged.records_bind, outcomes, Logged.records_bind,
    Logged.value_bind, value_checkAll, records_checkAll, finish]
  cases hStop : firstStop? ((valid lines).map (check pages)) with
  | none => rfl
  | some stop => rfl

theorem records_checkSpec (pages : Pages) (spec : Spec) (line : Int) :
    ∃ rest, (checkSpec pages spec line).records = ⟨.debug, "GET " ++ spec.url⟩ :: rest := by
  rw [checkSpec, Verdict.ofSpec, Logged.records_bind, Logged.records_bind]
  exact ⟨_, rfl⟩

/-- A run is stopped exactly if a check lets something out, by what the first such check lets out. Its
log has the records of all checks either way, and that of its end if there is a report. -/
theorem runChecks_lets_out_first (pages : Pages) (lines : List SpecLine) (h : Answered pages lines) :
    ((∃ stop, (runChecks pages lines).value = .error stop) ↔
      ∃ line ∈ lines, ∃ stop, LetsOut pages line stop) ∧
    (∀ stop, (runChecks pages lines).value = .error stop ↔
      ∃ before line after, lines = before ++ line :: after ∧ LetsOut pages line stop ∧
        ∀ earlier ∈ before, ∀ other, ¬ LetsOut pages earlier other) ∧
    ((runChecks pages lines).records =
      ⟨.info, "Running " ++ toString (lines.countP SpecLine.isValid) ++ " checks (" ++
          toString (lines.countP fun line => !line.isValid) ++ " invalid lines)"⟩ ::
        lines.flatMap (recordsOf pages) ++
        match (runChecks pages lines).value with
        | .ok report => [⟨.info, "Done: " ++ toString report.matched ++ " matched, " ++
            toString report.failed ++ " failed"⟩]
        | .error _ => []) ∧
    ∀ line ∈ lines, ∀ spec, line.outcome = .ok spec →
      recordsOf pages line = (checkSpec pages spec line.number).records ∧
        ∃ rest, recordsOf pages line = ⟨.debug, "GET " ++ spec.url⟩ :: rest := by
  have hStop (stop : CheckStop) : (runChecks pages lines).value = .error stop ↔
      lines.findSome? (stopOf? pages) = some stop := by
    rw [value_runChecks, firstStop?_of_answered h]
    cases lines.findSome? (stopOf? pages) with
    | none => exact iff_of_false nofun nofun
    | some other => rw [Except.error.injEq, Option.some_inj]
  refine ⟨?_, ?_, ?_, ?_⟩
  · simp only [hStop, ← stopOf?_eq_some_iff, ← Option.isSome_iff_exists, List.findSome?_isSome_iff]
  · intro stop
    rw [hStop, List.findSome?_eq_some_iff]
    simp only [stopOf?_eq_some_iff, stopOf?_eq_none_iff]
  · rw [records_runChecks, opening_eq]
    rfl
  · intro line _ spec hOutcome
    have hRecords : recordsOf pages line = (checkSpec pages spec line.number).records := by
      rw [recordsOf, hOutcome]
    exact ⟨hRecords, hRecords ▸ records_checkSpec pages spec line.number⟩

/-- Two requests fail for reasons of their own. The first of them stops the run, and the second one
is made all the same. -/
theorem runChecks_lets_out_first_value :
    let pages : Pages := ⟨[("a", .answer 404 (.text "")), ("b", .failure ⟨.value, some "x"⟩),
      ("c", .failure ⟨.system, none⟩)]⟩
    let line (number : Int) (url : String) : SpecLine := ⟨number, "", .ok ⟨url, .contentMatches ""⟩⟩
    let lines : List SpecLine :=
      [line 1 "a", ⟨2, "", .error ⟨.spec, "", some 2⟩⟩, line 3 "b", line 4 "c"]
    Answered pages lines ∧ (runChecks pages lines).value = .error (.request ⟨.value, some "x"⟩) ∧
      (runChecks pages lines).records = [⟨.info, "Running 3 checks (1 invalid lines)"⟩,
        ⟨.debug, "GET a"⟩, ⟨.warning, "Check failed for a: Failed to load a: status code: 404"⟩,
        ⟨.debug, "GET b"⟩, ⟨.debug, "GET c"⟩] := by
  intro pages line lines
  have hAnswered : Answered pages lines := by
    intro line hLine spec hOutcome
    have hEach : ∀ entry ∈ valid lines, pages.answer entry.2.url ≠ .silence := by decide
    exact hEach _ (mem_valid.mpr ⟨line, hLine, rfl, hOutcome⟩)
  have hAbsent : (fetch pages "a").value = .error (.failed (.ofStatus "a" 404)) :=
    Fetch.value_fetch_iff.mpr (.refused (by decide) (by decide +kernel))
  obtain ⟨_, hStop, hRecords, _⟩ := runChecks_lets_out_first pages lines hAnswered
  have hFirst : (runChecks pages lines).value = .error (.request ⟨.value, some "x"⟩) := by
    refine (hStop _).mpr ⟨[line 1 "a", ⟨2, "", .error ⟨.spec, "", some 2⟩⟩], line 3 "b",
      [line 4 "c"], rfl, ⟨_, rfl, rfl⟩, ?_⟩
    rintro earlier hEarlier other ⟨spec, hOutcome, hCheck⟩
    simp only [List.mem_cons, List.not_mem_nil, or_false] at hEarlier
    rcases hEarlier with rfl | rfl
    · cases hOutcome
      cases (value_checkSpec_of_failed ⟨"a", .contentMatches ""⟩ 1 hAbsent).symm.trans hCheck
    · cases hOutcome
  rw [hFirst] at hRecords
  exact ⟨hAnswered, hFirst, hRecords.trans (by decide +kernel)⟩

end Run

end PageCheck
