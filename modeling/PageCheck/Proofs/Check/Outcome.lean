import PageCheck.Check.Run

/-!
# Outcomes of checks and runs

The verdict on its page decides a check, and the checks decide a run: it gives a report exactly if
each of them gives a result.
-/

namespace PageCheck

set_option autoImplicit false

def Verdict.outcome (line : Int) (spec : Spec) : Verdict → Except CheckStop CheckResult
  | stopped stop => .error stop
  | faulty detail => .ok (.ofStatus line spec .error detail)
  | decided holds => .ok (.ofStatus line spec (if holds then .matched else .notMatched) "")

theorem value_checkSpec (pages : Pages) (spec : Spec) (line : Int) :
    (checkSpec pages spec line).value = (Verdict.ofSpec pages spec).value.outcome line spec := by
  rw [checkSpec, Logged.value_bind]
  cases (Verdict.ofSpec pages spec).value <;> rfl

/-- A page that is not loaded is an error of the check. -/
theorem value_checkSpec_of_failed {pages : Pages} {e : FetchError} (spec : Spec) (line : Int)
    (h : (fetch pages spec.url).value = .error (.failed e)) :
    (checkSpec pages spec line).value = .ok (.ofStatus line spec .error e.message) := by
  rw [value_checkSpec, Verdict.ofSpec, Logged.value_bind, h]
  rfl

theorem eq_ofStatus_of_checkSpec {pages : Pages} {spec : Spec} {line : Int} {r : CheckResult}
    (h : (checkSpec pages spec line).value = .ok r) :
    ∃ status detail, status ≠ .invalid ∧ r = .ofStatus line spec status detail := by
  rw [value_checkSpec] at h
  cases hVerdict : (Verdict.ofSpec pages spec).value with
  | stopped stop =>
    rw [hVerdict] at h
    cases h
  | faulty detail =>
    rw [hVerdict] at h
    cases h
    exact ⟨.error, detail, by decide, rfl⟩
  | decided holds =>
    rw [hVerdict] at h
    cases h
    refine ⟨if holds then .matched else .notMatched, "", ?_, rfl⟩
    cases holds <;> decide

theorem line_of_checkSpec {pages : Pages} {spec : Spec} {line : Int} {r : CheckResult}
    (h : (checkSpec pages spec line).value = .ok r) : r.line = line := by
  obtain ⟨status, detail, _, rfl⟩ := eq_ofStatus_of_checkSpec h
  rfl

namespace Run

def check (pages : Pages) (entry : Int × Spec) : Except CheckStop CheckResult :=
  (checkSpec pages entry.2 entry.1).value

theorem value_checkAll (pages : Pages) (entries : List (Int × Spec)) :
    (checkAll pages entries).value = entries.map (check pages) := by
  induction entries with
  | nil => rfl
  | cons entry rest ih =>
    rw [checkAll, Logged.value_bind, Logged.value_bind, Logged.value_pure, ih]
    rfl

theorem mem_valid {lines : List SpecLine} {number : Int} {spec : Spec} :
    (number, spec) ∈ valid lines ↔
      ∃ line ∈ lines, line.number = number ∧ line.outcome = .ok spec := by
  rw [valid, List.mem_filterMap]
  constructor
  · rintro ⟨line, hLine, hSome⟩
    split at hSome
    · rename_i found hFound
      cases hSome
      exact ⟨line, hLine, rfl, hFound⟩
    · cases hSome
  · rintro ⟨line, hLine, rfl, hOutcome⟩
    exact ⟨line, hLine, by rw [hOutcome]⟩

theorem firstStop?_eq_none_iff {outcomes : List (Except CheckStop CheckResult)} :
    firstStop? outcomes = none ↔ ∀ outcome ∈ outcomes, ∃ r, outcome = .ok r := by
  have hStops : firstStop? outcomes = none ↔ outcomes.filterMap stop? = [] := by
    rw [firstStop?, Option.or_eq_none_iff, List.head?_eq_none_iff]
    exact ⟨fun h => h.2, fun h => ⟨by rw [h]; rfl, h⟩⟩
  rw [hStops, List.filterMap_eq_nil_iff]
  apply forall_congr'
  intro outcome
  apply imp_congr_right
  intro _
  cases outcome with
  | ok r => exact ⟨fun _ => ⟨r, rfl⟩, fun _ => rfl⟩
  | error stop =>
    constructor
    · intro hNone
      cases hNone
    · rintro ⟨r, hOk⟩
      cases hOk

def checked (pages : Pages) (lines : List SpecLine) : List CheckResult :=
  results ((valid lines).map (check pages))

def ChecksReturn (pages : Pages) (lines : List SpecLine) : Prop :=
  ∀ line ∈ lines, ∀ spec, line.outcome = .ok spec →
    ∃ r, (checkSpec pages spec line.number).value = .ok r

theorem checksReturn_iff_firstStop? {pages : Pages} {lines : List SpecLine} :
    ChecksReturn pages lines ↔ firstStop? ((valid lines).map (check pages)) = none := by
  rw [firstStop?_eq_none_iff]
  constructor
  · intro h outcome hMem
    obtain ⟨⟨number, spec⟩, hEntry, rfl⟩ := List.mem_map.mp hMem
    obtain ⟨line, hLine, rfl, hOutcome⟩ := mem_valid.mp hEntry
    exact h line hLine spec hOutcome
  · intro h line hLine spec hOutcome
    have hEntry : (line.number, spec) ∈ valid lines := mem_valid.mpr ⟨line, hLine, rfl, hOutcome⟩
    exact h (check pages (line.number, spec)) (List.mem_map_of_mem hEntry)

theorem value_runChecks {pages : Pages} {lines : List SpecLine} :
    (runChecks pages lines).value =
      match firstStop? ((valid lines).map (check pages)) with
      | some stop => .error stop
      | none => .ok (report (checked pages lines) lines) := by
  rw [runChecks, Logged.value_bind, outcomes, Logged.value_bind, value_checkAll, finish]
  cases hStop : firstStop? ((valid lines).map (check pages)) <;> rfl

theorem value_runChecks_of_checksReturn {pages : Pages} {lines : List SpecLine}
    (h : ChecksReturn pages lines) :
    (runChecks pages lines).value = .ok (report (checked pages lines) lines) := by
  rw [value_runChecks, checksReturn_iff_firstStop?.mp h]

/-- A run gives a report exactly if no check of it fails to give a result. -/
theorem exists_report_iff_checksReturn {pages : Pages} {lines : List SpecLine} :
    (∃ report, (runChecks pages lines).value = .ok report) ↔ ChecksReturn pages lines := by
  constructor
  · rintro ⟨report, hReport⟩
    apply checksReturn_iff_firstStop?.mpr
    rw [value_runChecks] at hReport
    split at hReport
    · cases hReport
    · assumption
  · intro h
    exact ⟨_, value_runChecks_of_checksReturn h⟩

end Run

end PageCheck
