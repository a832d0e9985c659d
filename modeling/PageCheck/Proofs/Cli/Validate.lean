import PageCheck.Proofs.Check.Report
import PageCheck.Proofs.Cli.Check

/-!
# The validate command

The command reads the lines that a check of the same file reads. It gives the same account of each
of them as the check does, and so tells before any page is loaded which results will be invalid.
-/

namespace PageCheck

set_option autoImplicit false

namespace CheckReport

def invalid (r : CheckReport) : List CheckResult := r.results.filter fun x => x.status == .invalid

def readable (r : CheckReport) : List CheckResult := r.results.filter fun x => x.status != .invalid

end CheckReport

theorem value_runWithin {limit : Option Seconds} {pages : Pages} {lines : List SpecLine} {r : CheckReport}
    (h : (runWithin limit pages lines).value = .ok r) : (runChecks pages lines).value = .ok r := by
  unfold runWithin at h
  split at h
  · exact Files.mapError_eq_ok_iff.mp h
  · split at h
    · exact Files.mapError_eq_ok_iff.mp h
    · split at h
      · cases h
      · split at h
        · cases h
        · exact Files.mapError_eq_ok_iff.mp h

theorem Engine.exists_text_of_loadSpecs {files : Files} {config : Config} {given : Option Path}
    {lines : List SpecLine} (h : (loadSpecs files config given).value = .ok lines) :
    ∃ text, (SpecFile.read config.depth text).value = .ok lines := by
  unfold loadSpecs at h
  split at h
  · cases h
  · rename_i p _
    have hLoad : (SpecFile.load files config.depth p).value = .ok lines := Files.mapError_eq_ok_iff.mp h
    unfold SpecFile.load at hLoad
    split at hLoad
    · cases hLoad
    · split at hLoad
      · cases hLoad
      · unfold SpecFile.readBytes at hLoad
        split at hLoad
        · cases hLoad
        · rename_i text _
          exact ⟨text, hLoad⟩

namespace Cli

open Cli.Action

variable {pages : Pages} {config : Config} {o : Options} {t u : Terminal} {lines : List SpecLine}

theorem Carries.value_of_on {α ε : Type} {x : Action α} {computed : Logged (Except ε α)} {a : α}
    (h : Carries x t computed) (hOn : (x.on t).1 = .ok a) : computed.value = .ok a := by
  cases hValue : computed.value with
  | error e =>
    obtain ⟨exit, text, _, hStops⟩ := h.error e hValue
    rw [hStops] at hOn
    cases hOn
  | ok b =>
    rw [h.ok b hValue] at hOn
    exact congrArg Except.ok (Except.ok.inj hOn)

theorem exists_lines_of_found {files : Files} {r : CheckReport}
    (h : (found files pages config o).value = .ok r) :
    ∃ lines, (Engine.loadSpecs files config (o.path? .spec)).value = .ok lines ∧
      (runChecks pages lines).value = .ok r := by
  rw [found, Logged.value_bind] at h
  split at h
  · cases h
  · rename_i lines hLines
    exact ⟨lines, hLines, value_runWithin (Files.mapError_eq_ok_iff.mp h)⟩

/-- The line for a result that is not invalid. -/
def readableLine (x : CheckResult) : String :=
  "Line " ++ toString x.line ++ ": " ++ x.url ++ " " ++ x.expression

theorem account_of_ownResult {line : SpecLine} {x : CheckResult} (h : Run.OwnResult pages line x) :
    x.status = .invalid ∧ validLine? line = none ∧ invalidLine? line = some x.detail ∨
      x.status ≠ .invalid ∧ validLine? line = some (readableLine x) ∧ invalidLine? line = none := by
  unfold Run.OwnResult at h
  cases hOutcome : line.outcome with
  | error e =>
    rw [hOutcome] at h
    refine .inl ⟨h ▸ rfl, ?_, ?_⟩
    · rw [validLine?, hOutcome]
    · rw [invalidLine?, hOutcome, h]
      rfl
  | ok spec =>
    rw [hOutcome] at h
    obtain ⟨status, detail, hStatus, rfl⟩ := eq_ofStatus_of_checkSpec h
    refine .inr ⟨hStatus, ?_, ?_⟩
    · rw [validLine?, hOutcome]
      rfl
    · rw [invalidLine?, hOutcome]

theorem filterMap_account {resultOf : SpecLine → CheckResult}
    (h : ∀ line ∈ lines, Run.OwnResult pages line (resultOf line)) :
    lines.filterMap validLine? = (⟨lines.map resultOf⟩ : CheckReport).readable.map readableLine ∧
      lines.filterMap invalidLine? = (⟨lines.map resultOf⟩ : CheckReport).invalid.map CheckResult.detail := by
  unfold CheckReport.readable CheckReport.invalid
  induction lines with
  | nil => exact ⟨rfl, rfl⟩
  | cons line rest ih =>
    obtain ⟨hReadable, hInvalid⟩ := ih fun line hLine => h line (List.mem_cons_of_mem _ hLine)
    rcases account_of_ownResult (h line List.mem_cons_self) with ⟨hStatus, hNone, hSome⟩ | ⟨hStatus, hSome, hNone⟩
    · simp [hStatus, hNone, hSome, hReadable, hInvalid]
    · simp [hStatus, hNone, hSome, hReadable, hInvalid]

theorem on_validate (h : (loadLines config o).on t = (.ok lines, u)) : (validate config o).on t =
    (.ok (codeFor (lines.filterMap invalidLine?).isEmpty),
      (u.shown (echoed (lines.filterMap validLine? ++
        [toString (lines.filterMap validLine?).length ++ " valid, " ++
          toString (lines.filterMap invalidLine?).length ++ " invalid"]))).complained
        (echoed (lines.filterMap invalidLine?))) := by
  rw [validate, on_bind_ok h]
  dsimp only
  rw [on_bind_ok (on_echoAll _), on_bind_ok (on_complain _), on_bind_ok (on_echo _), on_pure, plain_lines,
    echoed_append, Terminal.shown_append]
  rfl

/-- What the command leaves where a check of the same file comes to a report. -/
structure Predicts (r : CheckReport) (before : Log.Output) (done : Outcome) : Prop where
  output : done.output = before.screen ++ echoed (r.readable.map readableLine ++
    [toString r.readable.length ++ " valid, " ++ toString r.invalid.length ++ " invalid"])
  errors : done.errors = echoed (r.invalid.map CheckResult.detail)
  files : done.files = before.files
  exit : done.exit = .code (if r.invalid.length = 0 then 0 else 1)

theorem predicts_of_loadLines {r : CheckReport} (hLines : (loadLines config o).on t = (.ok lines, u))
    (hErrors : u.errors = "") (hNumbers : (lines.map SpecLine.number).Nodup)
    (h : (runChecks pages lines).value = .ok r) :
    Predicts r u.output (.of ((validate config o).on t)) := by
  obtain ⟨resultOf, hOwn, hRun⟩ :=
    Run.exists_resultOf_perm (Run.exists_report_iff_checksReturn.mp ⟨r, h⟩) hNumbers
  obtain rfl : r = ⟨lines.map resultOf⟩ := Except.ok.inj (h.symm.trans (hRun lines (.refl lines)))
  obtain ⟨hReadable, hInvalid⟩ := filterMap_account hOwn
  rw [on_validate hLines, hReadable, hInvalid, List.length_map, List.length_map]
  refine ⟨rfl, ?_, rfl, ?_⟩
  · change u.errors ++ _ = _
    rw [hErrors, String.empty_append]
  · rw [codeFor, List.isEmpty_map]
    simp only [List.isEmpty_iff_length_eq_zero]
    rfl

theorem isOk_of_present {r : CheckReport} (h : (Outcome.of ((present r o).on t)).exit.number = 0) :
    r.isOk = true := by
  by_cases hSaved : (saved r o t.output.files).fault = none
  · rw [on_present_of_saved hSaved] at h
    cases hOk : r.isOk with
    | true => rfl
    | false =>
      rw [hOk] at h
      exact absurd h Nat.one_ne_zero
  · obtain ⟨told, text, _, hOn⟩ := on_present_of_fault hSaved
    rw [hOn] at h
    exact absurd h Nat.one_ne_zero

theorem invalid_of_isOk {r : CheckReport} (h : r.isOk = true) : r.invalid = [] := by
  rw [CheckReport.invalid, List.filter_eq_nil_iff]
  intro x hx
  rw [r.isOk_iff.mp h x hx]
  decide

theorem predicts_of_start {world : World} {words : List String} (v : Start world words .validate)
    (hSource : Engine.HasSource world.files v.config (v.options.path? .spec)) {r : CheckReport}
    (hLines : (Engine.loadSpecs world.files v.config (v.options.path? .spec)).value = .ok lines)
    (h : (runChecks pages lines).value = .ok r) :
    Predicts r (v.logger.logAll world.stamp ⟨[], v.files, true⟩
      (Engine.loadSpecs world.files v.config (v.options.path? .spec)).records) (run world words) := by
  have hLoad : Carries (loadLines v.config v.options) v.terminal
      (Engine.loadSpecs v.files v.config (v.options.path? .spec)) := carries_loadLines
  rw [Engine.loadSpecs_of_within v.within hSource] at hLoad
  have hOn := hLoad.ok lines hLines
  obtain ⟨text, hRead⟩ := Engine.exists_text_of_loadSpecs hLines
  have hNumbers : (lines.map SpecLine.number).Nodup := by
    rw [SpecFile.eq_linesOf_of_read hRead]
    exact SpecFile.nodup_numbers_linesOf
  rw [run_validate v]
  exact predicts_of_loadLines hOn rfl hNumbers h

/-- A check that succeeds has found a report, and all its results are matches. -/
theorem exists_report_of_check {world : World} {words : List String} (s : Start world words .check)
    (h : (run world words).exit.number = 0) :
    ∃ r, (found s.files world.pages s.config s.options).value = .ok r ∧ r.isOk = true := by
  have hFind : Carries (findReport world.pages s.config s.options) s.terminal
      (found s.files world.pages s.config s.options) := carries_findReport
  rw [run_check s, check] at h
  cases hFound : (found s.files world.pages s.config s.options).value with
  | error e =>
    obtain ⟨exit, text, hFails, hOn⟩ := hFind.error e hFound
    rw [on_bind_error hOn] at h
    exact absurd (hFails.symm.trans h) Nat.one_ne_zero
  | ok r =>
    rw [on_bind_ok (hFind.ok r hFound)] at h
    exact ⟨r, rfl, isOk_of_present h⟩

theorem predicts_of_found {world : World} {words others : List String} (s : Start world words .check)
    (v : Start world others .validate) (hConfig : v.config = s.config)
    (hSpec : v.options.path? .spec = s.options.path? .spec)
    (hSource : Engine.HasSource world.files s.config (s.options.path? .spec)) {r : CheckReport}
    (h : (found s.files world.pages s.config s.options).value = .ok r) :
    Predicts r (v.logger.logAll world.stamp ⟨[], v.files, true⟩
      (Engine.loadSpecs world.files s.config (s.options.path? .spec)).records) (run world others) := by
  obtain ⟨lines, hLines, hRun⟩ := exists_lines_of_found h
  rw [Engine.loadSpecs_of_within s.within hSource] at hLines
  rw [← hConfig, ← hSpec] at hLines hSource ⊢
  exact predicts_of_start v hSource hLines hRun

/-- If a check comes to a report, validating the same file tells which of its results are invalid
and shows the same lines for the others; it succeeds whenever the check does. -/
theorem validate_predicts_check {world : World} {words others : List String}
    (s : Start world words .check) (v : Start world others .validate) (hConfig : v.config = s.config)
    (hSpec : v.options.path? .spec = s.options.path? .spec)
    (hSource : Engine.HasSource world.files s.config (s.options.path? .spec)) :
    let loaded := Engine.loadSpecs world.files s.config (s.options.path? .spec)
    let before := v.logger.logAll world.stamp ⟨[], v.files, true⟩ loaded.records
    (∀ r, ((findReport world.pages s.config s.options).on s.terminal).1 = .ok r →
      Predicts r before (run world others)) ∧
    ((run world words).exit.number = 0 → (run world others).exit.number = 0) := by
  intro loaded before
  have hFind : Carries (findReport world.pages s.config s.options) s.terminal
      (found s.files world.pages s.config s.options) := carries_findReport
  refine ⟨fun r h => predicts_of_found s v hConfig hSpec hSource (hFind.value_of_on h), fun hExit => ?_⟩
  obtain ⟨r, hFound, hOk⟩ := exists_report_of_check s hExit
  rw [(predicts_of_found s v hConfig hSpec hSource hFound).exit, invalid_of_isOk hOk]
  rfl

def colouredValidation : Start coloured ["validate", "-ss.txt"] .validate where
  top := ⟨[], false, ["validate", "-ss.txt"]⟩
  rest := ["-ss.txt"]
  logger := .initial
  files := coloured.files
  config := .standard
  options := ⟨[(.spec, .path ⟨"", ["s.txt"]⟩)], false, []⟩
  reads_top := by cbv
  names_command := rfl
  configures := rfl
  loads := rfl
  reads_options := by cbv

theorem findReport_coloured : ((findReport coloured.pages .standard colouredStart.options).on
    colouredStart.terminal).1 = .ok colouredReport :=
  congrArg Prod.fst ((carries_of_start colouredStart hasSource_coloured nofun).ok _ value_run_coloured)

theorem validate_predicts_check_coloured :
    ((findReport coloured.pages .standard colouredStart.options).on colouredStart.terminal).1 =
        .ok colouredReport ∧
      (run coloured ["validate", "-ss.txt"]).exit = .code 1 := by
  have hPredicts := validate_predicts_check colouredStart colouredValidation rfl rfl hasSource_coloured
  exact ⟨findReport_coloured, (hPredicts.1 _ findReport_coloured).exit⟩

/-- The account of an invalid line is not shown as it stands in the report: the control sequence in
it is left out. -/
theorem validate_drops_control_sequences : ∃ (world : World) (words others : List String)
    (s : Start world words .check) (v : Start world others .validate) (r : CheckReport),
    v.config = s.config ∧ v.options.path? .spec = s.options.path? .spec ∧
      Engine.HasSource world.files s.config (s.options.path? .spec) ∧
      ((findReport world.pages s.config s.options).on s.terminal).1 = .ok r ∧
      (run world others).errors ≠ String.join (r.invalid.map fun x => x.detail ++ "\n") := by
  refine ⟨coloured, _, _, colouredStart, colouredValidation, colouredReport, rfl, rfl, hasSource_coloured,
    findReport_coloured, ?_⟩
  have hUnlimited : IsUnlimited colouredStart.options := nofun
  have hFound : (found coloured.files coloured.pages .standard colouredStart.options).value =
      .ok colouredReport := by
    rw [found_of_isUnlimited _ hUnlimited]
    exact value_run_coloured
  rw [(predicts_of_found colouredStart colouredValidation rfl rfl hasSource_coloured hFound).errors]
  decide +kernel

end Cli

end PageCheck
