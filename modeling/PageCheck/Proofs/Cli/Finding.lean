import PageCheck.Proofs.Cli.Action
import PageCheck.Proofs.Files.Store

/-!
# Finding a report

The commands find lines and reports as a run from the same file does, with the same records in the
log. Where the run stops, the program ends with the code for a failure, and all it shows for that is
a complaint.
-/

namespace PageCheck

set_option autoImplicit false

theorem Logged.bind_pure_eq {α β : Type} (x : Logged α) (f : α → β) :
    (do return f (← x)) = (⟨f x.value, x.records⟩ : Logged β) :=
  congrArg (Logged.mk (f x.value)) (List.append_nil x.records)

namespace Engine

/-- The file to read, the given one or that of the configuration, is there. -/
def HasSource (files : Files) (config : Config) (given : Option Path) : Prop :=
  ∃ p q octets, source? config given = some p ∧ p.expand? files.home = some q ∧ files.bytes q = .ok octets

theorem loadSpecs_of_within {files more : Files} {config : Config} {given : Option Path}
    (h : Files.Within files more) (hSource : HasSource files config given) :
    loadSpecs more config given = loadSpecs files config given := by
  obtain ⟨p, q, octets, hGiven, hPlace, hBytes⟩ := hSource
  have hLoad : SpecFile.load more config.depth p = SpecFile.load files config.depth p := by
    rw [SpecFile.load, SpecFile.load, h.home, hPlace]
    simp only [hBytes, h.bytes_eq hBytes]
  rw [loadSpecs, loadSpecs, hGiven]
  simp only [hLoad]

theorem loadSpecs_of_text {files : Files} {config : Config} {given : Option Path} {p q : Path}
    {octets : List UInt8} {text : String} (hGiven : source? config given = some p)
    (hPlace : p.expand? files.home = some q) (hBytes : files.bytes q = .ok octets)
    (hText : Files.textOf octets = .ok text) : loadSpecs files config given =
      ⟨(SpecFile.read config.depth text).value.mapError .file, (SpecFile.read config.depth text).records⟩ := by
  rw [loadSpecs, hGiven]
  simp only [SpecFile.load, hPlace, hBytes, SpecFile.readBytes, hText, Logged.bind_pure_eq]

end Engine

namespace Cli

open Cli.Action

/-- An action carries a computation out if it logs its records and comes to its value, or ends the
program with the code for a failure and nothing more than a complaint. -/
structure Carries {α ε : Type} (x : Action α) (t : Terminal) (found : Logged (Except ε α)) : Prop where
  ok : ∀ a, found.value = .ok a → x.on t = (.ok a, t.logged found.records)
  error : ∀ e, found.value = .error e → ∃ exit text, exit.number = 1 ∧
    x.on t = (.error exit, (t.logged found.records).complained text)

section

variable {α β ε δ : Type} {x : Action α} {t : Terminal} {records : List Log.Record}

theorem carries_ok {a : α} (h : x.on t = (.ok a, t.logged records)) :
    Carries x t (⟨.ok a, records⟩ : Logged (Except ε α)) where
  ok := by
    rintro b ⟨⟩
    exact h
  error := by
    rintro e ⟨⟩

theorem carries_fail {e : ε} (line : String)
    (h : x.on t = (fail line : Action α).on (t.logged records)) :
    Carries x t (⟨.error e, records⟩ : Logged (Except ε α)) where
  ok := by
    rintro a ⟨⟩
  error := by
    rintro other ⟨⟩
    exact ⟨.code 1, _, rfl, h⟩

theorem carries_escape {e : ε} (fault : Escape) (h : x.on t = (.error (.escape fault), t.logged records)) :
    Carries x t (⟨.error e, records⟩ : Logged (Except ε α)) where
  ok := by
    rintro a ⟨⟩
  error := by
    rintro other ⟨⟩
    refine ⟨.escape fault, "", rfl, ?_⟩
    rw [h, Terminal.complained, String.append_empty]

theorem Carries.bind_error {f : α → Action β} {e : ε} {d : δ}
    (h : Carries x t (⟨.error e, records⟩ : Logged (Except ε α))) :
    Carries (x >>= f) t (⟨.error d, records⟩ : Logged (Except δ β)) where
  ok := by
    rintro b ⟨⟩
  error := by
    rintro other ⟨⟩
    obtain ⟨exit, text, hExit, hOn⟩ := h.error e rfl
    exact ⟨exit, text, hExit, on_bind_error hOn⟩

end

variable {pages : Pages} {config : Config} {o : Options} {t : Terminal}

/-- The lines are loaded as they are for a run from the same file. -/
theorem carries_loadLines :
    Carries (loadLines config o) t (Engine.loadSpecs t.output.files config (o.path? .spec)) := by
  unfold loadLines Engine.loadSpecs
  cases hSource : Engine.source? config (o.path? .spec) with
  | none => exact carries_fail noSpecFile rfl
  | some p =>
    simp only [Logged.bind_pure_eq]
    generalize hLoad : SpecFile.load t.output.files config.depth p = loaded
    have hLogged : (logged (SpecFile.load t.output.files config.depth p)).on t =
        (.ok loaded.value, t.logged loaded.records) := by rw [hLoad, on_logged]
    obtain ⟨value, records⟩ := loaded
    cases value with
    | ok lines =>
      refine carries_ok ?_
      rw [on_bind_ok on_files, on_bind_ok hLogged]
      rfl
    | error e =>
      -- A home folder that is not known gets out of the program as it is, and so does a long number.
      cases e with
      | home =>
        refine carries_escape (.home SpecFile.LoadError.home.message) ?_
        rw [on_bind_ok on_files, on_bind_ok hLogged]
        rfl
      | longNumber =>
        refine carries_escape (.value SpecFile.LoadError.longNumber.message) ?_
        rw [on_bind_ok on_files, on_bind_ok hLogged]
        rfl
      | missing path =>
        refine carries_fail ("Ошибка чтения файла спецификаций: " ++ (SpecFile.LoadError.missing path).message) ?_
        rw [on_bind_ok on_files, on_bind_ok hLogged]
      | notText fault =>
        refine carries_fail ("Ошибка чтения файла спецификаций: " ++ (SpecFile.LoadError.notText fault).message) ?_
        rw [on_bind_ok on_files, on_bind_ok hLogged]

/-- The report on the lines of the file, checked within the limit. -/
def found (files : Files) (pages : Pages) (config : Config) (o : Options) :
    Logged (Except Engine.Error CheckReport) := do
  match ← Engine.loadSpecs files config (o.path? .spec) with
  | .error e => return .error (.load e)
  | .ok lines =>
    return (← runWithin ((o.number? .runTimeout).map .real) pages lines).mapError .run

theorem carries_findReport :
    Carries (findReport pages config o) t (found t.output.files pages config o) := by
  have hLines : Carries (loadLines config o) t _ := carries_loadLines
  unfold findReport found
  generalize Engine.loadSpecs t.output.files config (o.path? .spec) = loaded at hLines
  obtain ⟨value, records⟩ := loaded
  cases value with
  | error e =>
    change Carries _ t ⟨.error (Engine.Error.load e), records ++ []⟩
    rw [List.append_nil]
    exact hLines.bind_error
  | ok lines =>
    have hLogged (run : Logged (Except RunStop CheckReport)) : (logged run).on (t.logged records) =
        (.ok run.value, t.logged (records ++ run.records)) := by
      rw [on_logged, Terminal.logged_append]
    let run := runWithin ((o.number? .runTimeout).map .real) pages lines
    change Carries _ t ⟨run.value.mapError Engine.Error.run, records ++ (run.records ++ [])⟩
    rw [List.append_nil]
    cases hRun : run.value with
    | ok report =>
      refine carries_ok ?_
      rw [on_bind_ok (hLines.ok lines rfl), on_bind_ok (hLogged run), hRun, on_orFail_ok]
    | error stop =>
      refine carries_fail (runFault (((o.number? .runTimeout).map Layout.message.write).getD "") stop) ?_
      rw [on_bind_ok (hLines.ok lines rfl), on_bind_ok (hLogged run), hRun]
      rfl

/-- Whether no limit of time is given: no seconds are no limit. -/
def IsUnlimited (o : Options) : Prop := ∀ x ∈ o.number? .runTimeout, x.isZero = true

theorem runWithin_of_isUnlimited (h : IsUnlimited o) (lines : List SpecLine) :
    runWithin ((o.number? .runTimeout).map .real) pages lines = runWithin none pages lines := by
  cases hLimit : o.number? .runTimeout with
  | none => rfl
  | some x =>
    have hZero : (Seconds.real x).isZero = true := h x hLimit
    simp only [Option.map_some, runWithin, hZero, if_true]

theorem found_of_isUnlimited (files : Files) (h : IsUnlimited o) :
    found files pages config o = Engine.run files pages config (o.path? .spec) none := by
  unfold found Engine.run
  congr 1
  funext loaded
  cases loaded with
  | error e => rfl
  | ok lines =>
    dsimp only
    rw [runWithin_of_isUnlimited h]
    generalize runWithin none pages lines = run
    obtain ⟨value, records⟩ := run
    cases value with
    | ok report => rfl
    | error stop => cases stop <;> rfl

end Cli

end PageCheck
