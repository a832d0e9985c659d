import Mathlib
import PageCheck.Proofs.Cli.Finding
import PageCheck.Proofs.Cli.Start
import PageCheck.Proofs.Report.Save
import PageCheck.Proofs.SpecFile.Numbers

/-!
# The check command

The command comes to the report that a run from the same file comes to. It shows the results, saves
the report where that is asked for and tells so. Where the run stops, it shows nothing and saves
nothing.
-/

namespace PageCheck

set_option autoImplicit false

namespace CheckReport

theorem isOk_iff (r : CheckReport) : r.isOk = true ↔ ∀ x ∈ r.results, x.status = .matched := by
  have hLe : r.matched ≤ r.results.length := List.countP_le_length
  have hAll : r.matched = r.results.length ↔ ∀ x ∈ r.results, x.isMatched = true := List.countP_eq_length
  rw [isOk, failed, beq_iff_eq, Nat.sub_eq_zero_iff_le]
  refine ⟨fun h x hx => beq_iff_eq.mp (hAll.mp (Nat.le_antisymm hLe h) x hx), fun h => ?_⟩
  exact Nat.le_of_eq (hAll.mpr fun x hx => beq_iff_eq.mpr (h x hx)).symm

end CheckReport

namespace Cli

open Cli.Action

variable {r : CheckReport} {o : Options} {t : Terminal}

def savedJson (r : CheckReport) (o : Options) (files : Files) : Saved :=
  match o.path? .json with
  | none => ⟨files, none⟩
  | some p => r.saveJson o.pretty p files

def savedHtml (r : CheckReport) (o : Options) (files : Files) : Saved :=
  match o.path? .html with
  | none => ⟨files, none⟩
  | some p => r.saveHtml (o.path? .template) p files

/-- The files after a report is saved where that is asked for, and the first fault in it. -/
def saved (r : CheckReport) (o : Options) (files : Files) : Saved :=
  match (savedJson r o files).fault with
  | none => savedHtml r o (savedJson r o files).files
  | some _ => savedJson r o files

def jsonLines (o : Options) : List String := ((o.path? .json).map fun p => "JSON report: " ++ p.text).toList

def htmlLines (o : Options) : List String := ((o.path? .html).map fun p => "HTML report: " ++ p.text).toList

/-- The lines that tell where a report is saved. -/
def savedLines (o : Options) : List String := jsonLines o ++ htmlLines o

/-- An action saves if it leaves the files as they are saved and tells so, or stops on the way. -/
structure Saves (x : Action Unit) (t : Terminal) (saved : Saved) (lines : List String) : Prop where
  ok : saved.fault = none → x.on t = (.ok (), (t.withFiles saved.files).shown (echoed lines))
  fault : saved.fault ≠ none → ∃ told text, told <+: lines ∧
    x.on t = (.error (.code 1), ((t.withFiles saved.files).shown (echoed told)).complained text)

theorem saves_pure : Saves (pure ()) t ⟨t.output.files, none⟩ [] where
  ok _ := by
    rw [on_pure, Terminal.shown_nothing]
    rfl
  fault h := absurd rfl h

theorem saves_keep (what line : String) (save : Files → Saved) :
    Saves (do keep what (save (← files)); echo line) t (save t.output.files) [line] where
  ok h := by
    have hKeep : (keep what (save t.output.files)).on t = (.ok (), t.withFiles (save t.output.files).files) := by
      rw [keep, h]
      rfl
    rw [on_bind_ok on_files, on_bind_ok hKeep, on_echo]
  fault h := by
    obtain ⟨fault, hFault⟩ := Option.ne_none_iff_exists'.mp h
    have hKeep : ∃ text, (keep what (save t.output.files)).on t =
        (.error (.code 1), (t.withFiles (save t.output.files).files).complained text) := by
      rw [keep, hFault]
      exact ⟨_, rfl⟩
    obtain ⟨text, hOn⟩ := hKeep
    refine ⟨[], text, List.nil_prefix, ?_⟩
    rw [on_bind_ok on_files, on_bind_error hOn, Terminal.shown_nothing]

theorem saves_saveJson : Saves (saveJson r o) t (savedJson r o t.output.files) (jsonLines o) := by
  unfold saveJson savedJson jsonLines
  cases o.path? .json with
  | none => exact saves_pure
  | some p => exact saves_keep "JSON" ("JSON report: " ++ p.text) (r.saveJson o.pretty p)

theorem saves_saveHtml : Saves (saveHtml r o) t (savedHtml r o t.output.files) (htmlLines o) := by
  unfold saveHtml savedHtml htmlLines
  cases o.path? .html with
  | none => exact saves_pure
  | some p => exact saves_keep "HTML" ("HTML report: " ++ p.text) (r.saveHtml (o.path? .template) p)

theorem saves_both : Saves (do saveJson r o; saveHtml r o) t (saved r o t.output.files) (savedLines o) := by
  have hJson : Saves (saveJson r o) t (savedJson r o t.output.files) (jsonLines o) := saves_saveJson
  by_cases hFirst : (savedJson r o t.output.files).fault = none
  · let next := (t.withFiles (savedJson r o t.output.files).files).shown (echoed (jsonLines o))
    have hHtml : Saves (saveHtml r o) next (savedHtml r o (savedJson r o t.output.files).files) (htmlLines o) :=
      saves_saveHtml
    have hSaved : saved r o t.output.files = savedHtml r o (savedJson r o t.output.files).files := by
      rw [saved, hFirst]
    rw [hSaved, savedLines]
    constructor
    · intro hSecond
      rw [on_bind_ok (hJson.ok hFirst), hHtml.ok hSecond, echoed_append, Terminal.shown_append]
      rfl
    · intro hSecond
      obtain ⟨told, text, hTold, hOn⟩ := hHtml.fault hSecond
      refine ⟨jsonLines o ++ told, text, (List.prefix_append_right_inj _).mpr hTold, ?_⟩
      rw [on_bind_ok (hJson.ok hFirst), hOn, echoed_append, Terminal.shown_append]
      rfl
  · have hSaved : saved r o t.output.files = savedJson r o t.output.files := by
      obtain ⟨fault, hFault⟩ := Option.ne_none_iff_exists'.mp hFirst
      rw [saved, hFault]
    rw [hSaved]
    constructor
    · exact fun hNone => absurd hNone hFirst
    · intro _
      obtain ⟨told, text, hTold, hOn⟩ := hJson.fault hFirst
      exact ⟨told, text, hTold.trans (List.prefix_append _ _), on_bind_error hOn⟩

theorem present_eq : present r o =
    (do echoAll (r.results.map CheckResult.describe)
        (do saveJson r o; saveHtml r o)
        return codeFor r.isOk) := by
  simp only [present, bind_assoc]

/-- A report that is saved without a fault. -/
theorem on_present_of_saved (h : (saved r o t.output.files).fault = none) : (present r o).on t =
    (.ok (codeFor r.isOk), (t.withFiles (saved r o t.output.files).files).shown
      (echoed (r.results.map CheckResult.describe ++ savedLines o))) := by
  let next := t.shown (echoed (r.results.map CheckResult.describe))
  have hBoth : Saves (do saveJson r o; saveHtml r o) next (saved r o t.output.files) (savedLines o) :=
    saves_both
  rw [present_eq, on_bind_ok (on_echoAll _), on_bind_ok (hBoth.ok h), on_pure, echoed_append,
    Terminal.shown_append]
  rfl

theorem on_present_of_fault (h : (saved r o t.output.files).fault ≠ none) :
    ∃ told text, told <+: savedLines o ∧ (present r o).on t = (.error (.code 1),
      ((t.withFiles (saved r o t.output.files).files).shown
        (echoed (r.results.map CheckResult.describe ++ told))).complained text) := by
  let next := t.shown (echoed (r.results.map CheckResult.describe))
  have hBoth : Saves (do saveJson r o; saveHtml r o) next (saved r o t.output.files) (savedLines o) :=
    saves_both
  obtain ⟨told, text, hTold, hOn⟩ := hBoth.fault h
  refine ⟨told, text, hTold, ?_⟩
  rw [present_eq, on_bind_ok (on_echoAll _), on_bind_error hOn, echoed_append, Terminal.shown_append]
  rfl

variable {files : Files} {p : Path}

theorem saved_of_fault_eq_none (h : (saved r o files).fault = none) :
    (savedJson r o files).fault = none ∧ saved r o files = savedHtml r o (savedJson r o files).files := by
  cases hFirst : (savedJson r o files).fault with
  | none => exact ⟨rfl, by rw [saved, hFirst]⟩
  | some fault =>
    rw [saved, hFirst] at h
    exact absurd (hFirst.symm.trans h) nofun

/-- The JSON stands in its file still after the page has been saved. -/
theorem bytes_of_saved_json (h : (saved r o files).fault = none) (hJson : o.path? .json = some p)
    (hApart : ∀ q ∈ o.path? .html, Files.Apart files.current p q) :
    (saved r o files).files.bytes p = .ok (r.json o.pretty).toUTF8.data.toList := by
  obtain ⟨hFirst, hSaved⟩ := saved_of_fault_eq_none h
  have hGiven : savedJson r o files = r.saveJson o.pretty p files := by rw [savedJson, hJson]
  rw [hGiven] at hFirst hSaved
  have hBytes := CheckReport.bytes_of_saveJson hFirst
  have hCurrent : (r.saveJson o.pretty p files).files.current = files.current := CheckReport.current_saveJson
  rw [hSaved, savedHtml]
  cases hHtml : o.path? .html with
  | none => exact hBytes
  | some q => exact CheckReport.bytes_of_saveHtml_of_apart (hCurrent ▸ hApart q hHtml) hBytes

theorem bytes_of_saved_html (h : (saved r o files).fault = none) (hHtml : o.path? .html = some p) :
    ∃ made page, (savedJson r o files).files.makeFolders p.parent = .ok made ∧
      made.template (o.path? .template) = .ok page ∧
      (saved r o files).files.bytes p = .ok (page.render r).toUTF8.data.toList := by
  obtain ⟨_, hSaved⟩ := saved_of_fault_eq_none h
  rw [hSaved] at h
  rw [hSaved]
  simp only [savedHtml, hHtml] at h ⊢
  exact CheckReport.exists_template_of_saveHtml h

/-- What the command leaves when it has shown and saved a report. The page follows the template that
there is by then in the given folder, or the standard one. -/
structure Leaves (r : CheckReport) (o : Options) (before : Log.Output) (done : Outcome) : Prop where
  output : done.output = before.screen ++ echoed (r.results.map CheckResult.describe ++ savedLines o)
  errors : done.errors = ""
  files : done.files = (saved r o before.files).files
  json : ∀ p ∈ o.path? .json, done.files.bytes p = .ok (r.json o.pretty).toUTF8.data.toList
  html : ∀ p ∈ o.path? .html, ∃ made page,
    (savedJson r o before.files).files.makeFolders p.parent = .ok made ∧
      made.template (o.path? .template) = .ok page ∧
      done.files.bytes p = .ok (page.render r).toUTF8.data.toList
  exit : done.exit = .code (if ∀ x ∈ r.results, x.status = .matched then 0 else 1)

/-- What the command leaves when a report cannot be saved. -/
structure BreaksOff (r : CheckReport) (o : Options) (before : Log.Output) (done : Outcome) : Prop where
  output : ∃ told, told <+: savedLines o ∧
    done.output = before.screen ++ echoed (r.results.map CheckResult.describe ++ told)
  files : done.files = (saved r o before.files).files
  exit : done.exit = .code 1

theorem codeFor_isOk (r : CheckReport) :
    codeFor r.isOk = if ∀ x ∈ r.results, x.status = .matched then 0 else 1 := by
  by_cases hAll : ∀ x ∈ r.results, x.status = .matched
  · rw [if_pos hAll, codeFor, r.isOk_iff.mpr hAll, if_pos rfl]
  · rw [if_neg hAll, codeFor, if_neg (fun hOk => hAll (r.isOk_iff.mp hOk))]

variable {pages : Pages} {config : Config} {records : List Log.Record}

theorem leaves_of_findReport (hFind : (findReport pages config o).on t = (.ok r, t.logged records))
    (hErrors : t.errors = "") (h : (saved r o (t.logged records).output.files).fault = none)
    (hApart : ∀ p ∈ o.path? .json, ∀ q ∈ o.path? .html, Files.Apart t.output.files.current p q) :
    Leaves r o (t.logged records).output (.of ((check pages config o).on t)) := by
  have hCurrent : (t.logged records).output.files.current = t.output.files.current :=
    t.logger.current_logAll records
  rw [check, on_bind_ok hFind, on_present_of_saved h]
  exact {
    output := rfl
    errors := hErrors
    files := rfl
    json := fun p hJson => bytes_of_saved_json h hJson fun q hHtml => hCurrent ▸ hApart p hJson q hHtml
    html := fun p hHtml => bytes_of_saved_html h hHtml
    exit := congrArg Exit.code (codeFor_isOk r) }

theorem breaksOff_of_findReport (hFind : (findReport pages config o).on t = (.ok r, t.logged records))
    (h : (saved r o (t.logged records).output.files).fault ≠ none) :
    BreaksOff r o (t.logged records).output (.of ((check pages config o).on t)) := by
  obtain ⟨told, text, hTold, hOn⟩ := on_present_of_fault h
  rw [check, on_bind_ok hFind, hOn]
  exact ⟨⟨told, hTold, rfl⟩, rfl, rfl⟩

theorem carries_of_start {world : World} {words : List String} (s : Start world words .check)
    (hSource : Engine.HasSource world.files s.config (s.options.path? .spec))
    (hLimit : IsUnlimited s.options) : Carries (findReport world.pages s.config s.options) s.terminal
      (Engine.run world.files world.pages s.config (s.options.path? .spec) none) := by
  have hFound : found s.files world.pages s.config s.options =
      Engine.run world.files world.pages s.config (s.options.path? .spec) none := by
    rw [found_of_isUnlimited _ hLimit]
    simp only [Engine.run, Engine.loadSpecs_of_within s.within hSource]
  exact hFound ▸ carries_findReport

/-- The command agrees with a run from the same file: if that gives a report, the command shows its
results, each line without its control sequences, saves the report and tells by its code whether
all results are matches; if not, it fails and neither shows nor saves anything. A run that waits for
a page that never comes counts as one that stops. -/
theorem check_agrees_with_run {world : World} {words : List String} (s : Start world words .check)
    (hSource : Engine.HasSource world.files s.config (s.options.path? .spec))
    (hLimit : IsUnlimited s.options)
    (hApart : ∀ p ∈ s.options.path? .json, ∀ q ∈ s.options.path? .html,
      Files.Apart world.files.current p q) :
    let found := Engine.run world.files world.pages s.config (s.options.path? .spec) none
    let before := s.logger.logAll world.stamp ⟨[], s.files, true⟩ found.records
    let done := run world words
    (∀ r, found.value = .ok r →
      ((saved r s.options before.files).fault = none → Leaves r s.options before done) ∧
      ((saved r s.options before.files).fault ≠ none → BreaksOff r s.options before done)) ∧
    ∀ e, found.value = .error e →
      done.exit.number = 1 ∧ done.output = before.screen ∧ done.files = before.files := by
  intro found before done
  have hDone : done = .of ((check world.pages s.config s.options).on s.terminal) := run_check s
  have hCarries : Carries (findReport world.pages s.config s.options) s.terminal found :=
    carries_of_start s hSource hLimit
  have hCurrent : s.files.current = world.files.current := s.within.current
  rw [hDone]
  refine ⟨fun r hValue => ⟨fun h => ?_, fun h => ?_⟩, fun e hValue => ?_⟩
  · exact leaves_of_findReport (hCarries.ok r hValue) rfl h fun p hJson q hHtml =>
      hCurrent ▸ hApart p hJson q hHtml
  · exact breaksOff_of_findReport (hCarries.ok r hValue) h
  · obtain ⟨exit, text, hExit, hOn⟩ := hCarries.error e hValue
    rw [check, on_bind_error hOn]
    exact ⟨hExit, rfl, rfl⟩

/-- A world with one file, whose only line cannot be read and starts with a control sequence. -/
def coloured : World where
  files := ⟨⟨"/", ["d"]⟩, ⟨⟨"/", ["d"]⟩, []⟩, [(["s.txt"], .file "\x1b[31mred".toUTF8.data.toList)]⟩
  pages := ⟨[]⟩
  specFile := none
  stamp := .ofTime ""

def colouredReport : CheckReport :=
  ⟨[⟨1, "\x1b[31mred", "\x1b[31mred", .invalid, "line 1: Could not parse site spec from: \x1b[31mred"⟩]⟩

set_option maxRecDepth 4000 in
def colouredStart : Start coloured ["check", "-ss.txt", "-jr.json", "--html", "r.html"] .check where
  top := ⟨[], false, ["check", "-ss.txt", "-jr.json", "--html", "r.html"]⟩
  rest := ["-ss.txt", "-jr.json", "--html", "r.html"]
  logger := .initial
  files := coloured.files
  config := .standard
  options := ⟨[(.spec, .path ⟨"", ["s.txt"]⟩), (.json, .path ⟨"", ["r.json"]⟩),
    (.html, .path ⟨"", ["r.html"]⟩)], false, []⟩
  reads_top := by cbv
  names_command := rfl
  configures := rfl
  loads := rfl
  reads_options := by cbv

theorem hasSource_coloured : Engine.HasSource coloured.files .standard (some ⟨"", ["s.txt"]⟩) :=
  ⟨_, ⟨"", ["s.txt"]⟩, _, rfl, by cbv, rfl⟩

theorem value_run_coloured :
    (Engine.run coloured.files coloured.pages .standard (some ⟨"", ["s.txt"]⟩) none).value =
      .ok colouredReport := by
  have hPlace : Path.expand? ⟨"", ["s.txt"]⟩ coloured.files.home = some ⟨"", ["s.txt"]⟩ := by cbv
  have hBytes : coloured.files.bytes ⟨"", ["s.txt"]⟩ = .ok "\x1b[31mred".toUTF8.data.toList := rfl
  have hText : Files.textOf "\x1b[31mred".toUTF8.data.toList = .ok "\x1b[31mred" := by cbv
  have hDepth : Text.isLong Config.standard.depth = false := by decide +kernel
  have hSize : (Text.lines "\x1b[31mred".toList).length < Nat.pow 10 Text.digitLimit :=
    Text.lt_pow_of_lt_ten (by decide)
  rw [Engine.run, Engine.loadSpecs_of_text rfl hPlace hBytes hText, SpecFile.read_of_short hDepth hSize]
  rfl

theorem fault_saved_coloured (r : CheckReport) :
    (saved r colouredStart.options coloured.files).fault = none := by
  have hHere (files : Files) : files.makeFolders ⟨"", []⟩ = .ok files := by
    rw [Files.makeFolders, Files.makeFoldersAt]
    rfl
  have hJson : savedJson r colouredStart.options coloured.files =
      ⟨coloured.files.put ["r.json"] (.file (r.json false).toUTF8.data.toList), none⟩ :=
    (CheckReport.saveJson_of_makeFolders (hHere _)).trans (Files.save_of_create rfl)
  rw [saved, hJson]
  generalize (r.json false).toUTF8.data.toList = octets
  have hTemplate : (coloured.files.put ["r.json"] (.file octets)).template none = .ok .standard := rfl
  have hHtml : savedHtml r colouredStart.options (coloured.files.put ["r.json"] (.file octets)) =
      (coloured.files.put ["r.json"] (.file octets)).save ⟨"", ["r.html"]⟩ (Template.standard.render r) :=
    CheckReport.saveHtml_of_makeFolders (hHere _) hTemplate
  have hFree : (coloured.files.put ["r.json"] (.file octets)).at? ["r.html"] = none := rfl
  simp only [hHtml]
  exact Files.fault_save_of_place rfl (hFree ▸ nofun)

theorem apart_coloured : ∀ p ∈ colouredStart.options.path? .json, ∀ q ∈ colouredStart.options.path? .html,
    Files.Apart coloured.files.current p q := by
  rintro p ⟨⟩ q ⟨⟩ files - x hJson hHtml
  have hNames : ["r.json"] = ["r.html"] := Except.ok.inj (hJson.trans hHtml.symm)
  exact absurd hNames (by decide)

/-- The output with the records of the run in the log. -/
def colouredLog : Log.Output := colouredStart.logger.logAll coloured.stamp ⟨[], coloured.files, true⟩
  (Engine.run coloured.files coloured.pages .standard (some ⟨"", ["s.txt"]⟩) none).records

theorem fault_saved_colouredLog :
    (saved colouredReport colouredStart.options colouredLog.files).fault = none := by
  have hFiles : colouredLog.files = coloured.files :=
    Log.Logger.files_logAll_of_screen (by decide) _
  rw [hFiles]
  exact fault_saved_coloured colouredReport

theorem check_agrees_with_run_coloured :
    Engine.HasSource coloured.files .standard (some ⟨"", ["s.txt"]⟩) ∧ IsUnlimited colouredStart.options ∧
      Leaves colouredReport colouredStart.options colouredLog
        (run coloured ["check", "-ss.txt", "-jr.json", "--html", "r.html"]) := by
  have hAgrees := check_agrees_with_run colouredStart hasSource_coloured nofun apart_coloured
  exact ⟨hasSource_coloured, nofun, (hAgrees.1 _ value_run_coloured).1 fault_saved_colouredLog⟩

/-- A result is not shown as it is described: the control sequence in it is left out. -/
theorem check_drops_control_sequences : ∃ (world : World) (words : List String)
    (s : Start world words .check) (r : CheckReport),
    let found := Engine.run world.files world.pages s.config (s.options.path? .spec) none
    let before := s.logger.logAll world.stamp ⟨[], s.files, true⟩ found.records
    Engine.HasSource world.files s.config (s.options.path? .spec) ∧ IsUnlimited s.options ∧
      (∀ p ∈ s.options.path? .json, ∀ q ∈ s.options.path? .html, Files.Apart world.files.current p q) ∧
      found.value = .ok r ∧ (saved r s.options before.files).fault = none ∧
      (run world words).output ≠ before.screen ++ String.join
        ((r.results.map CheckResult.describe ++ savedLines s.options).map fun line => line ++ "\n") := by
  refine ⟨coloured, _, colouredStart, colouredReport, hasSource_coloured, nofun, apart_coloured,
    value_run_coloured, fault_saved_colouredLog, ?_⟩
  have hLeaves : Leaves colouredReport colouredStart.options colouredLog _ :=
    leaves_of_findReport ((carries_of_start colouredStart hasSource_coloured nofun).ok _ value_run_coloured)
      rfl fault_saved_colouredLog apart_coloured
  have hOther : echoed (colouredReport.results.map CheckResult.describe ++ savedLines colouredStart.options) ≠
      String.join ((colouredReport.results.map CheckResult.describe ++ savedLines colouredStart.options).map
        fun line => line ++ "\n") := by decide +kernel
  rw [run_check colouredStart, hLeaves.output]
  exact fun hSame => hOther (Text.Codes.ofString_inj.mp (List.append_cancel_left hSame))

end Cli

end PageCheck
