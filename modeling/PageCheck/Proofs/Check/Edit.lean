import Mathlib.Logic.Basic
import PageCheck.Check.Edit

/-!
# The counts of edited reports

The counts of a report are taken in three ways: the matched ones, those left over, and one count for
each status. They agree after every request, whether it is met or not. A new status moves one result
from one count to another, and a new detail moves none.
-/

namespace PageCheck

set_option autoImplicit false

theorem CheckStatus.ofName?_eq_some_iff {name : String} {status : CheckStatus} :
    ofName? name = some status ↔ status.name = name := by
  constructor
  · intro h
    exact beq_iff_eq.mp (List.find?_some (p := fun s : CheckStatus => s.name == name) h)
  · rintro rfl
    cases status <;> decide

theorem CheckStatus.ofName?_eq_none_iff {name : String} :
    ofName? name = none ↔ ∀ status : CheckStatus, status.name ≠ name := by
  simp only [Option.eq_none_iff_forall_ne_some, ne_eq, ofName?_eq_some_iff]

namespace CheckReport

variable {r more : CheckReport} {index : Int} {before after : List CheckResult} {result : CheckResult}

/-! Places -/

/-- The number of a result that stands between others, counted from either end. -/
def PointsBetween (index : Int) (before after : List CheckResult) : Prop :=
  index = before.length ∨ index = -(after.length + 1)

/-- Some result has this number. -/
def HasNumber (r : CheckReport) (index : Int) : Prop :=
  -(r.results.length : Int) ≤ index ∧ index < r.results.length

theorem placeOf?_eq_some_iff {length place : Nat} :
    placeOf? length index = some place ↔
      place < length ∧ (index = place ∨ index = place - (length : Int)) := by
  unfold placeOf?
  split
  · split
    · rw [Option.some.injEq]
      omega
    · simp only [reduceCtorEq, false_iff]
      omega
  · split
    · rw [Option.some.injEq]
      omega
    · simp only [reduceCtorEq, false_iff]
      omega

theorem pointsBetween_iff {place : Nat} (hPlace : before.length = place) :
    PointsBetween index before after ↔
      index = place ∨ index = place - ((before ++ result :: after).length : Int) := by
  rw [PointsBetween, List.length_append, List.length_cons]
  omega

theorem exists_between (h : r.HasNumber index) : ∃ before result after,
    r.results = before ++ result :: after ∧ PointsBetween index before after := by
  obtain ⟨place, hPlace⟩ : ∃ place, placeOf? r.results.length index = some place := by
    rw [HasNumber] at h
    by_cases hSign : 0 ≤ index
    · exact ⟨index.toNat, placeOf?_eq_some_iff.mpr (by omega)⟩
    · exact ⟨(index + r.results.length).toNat, placeOf?_eq_some_iff.mpr (by omega)⟩
  obtain ⟨hInside, hNumber⟩ := placeOf?_eq_some_iff.mp hPlace
  obtain ⟨before, result, after, hResults, hLength, _⟩ := List.exists_of_modify id hInside
  rw [hResults] at hNumber
  exact ⟨before, result, after, hResults, (pointsBetween_iff hLength).mpr hNumber⟩

theorem placeOf?_between (hResults : r.results = before ++ result :: after)
    (hIndex : PointsBetween index before after) :
    placeOf? r.results.length index = some before.length := by
  rw [placeOf?_eq_some_iff, hResults]
  refine ⟨by simp, ?_⟩
  exact (pointsBetween_iff rfl).mp hIndex

theorem placeOf?_eq_none (h : ¬ r.HasNumber index) : placeOf? r.results.length index = none := by
  rw [Option.eq_none_iff_forall_ne_some]
  intro place hPlace
  obtain ⟨hInside, hNumber⟩ := placeOf?_eq_some_iff.mp hPlace
  exact h (by rw [HasNumber]; omega)

theorem change_of_pointsBetween (f : CheckResult → CheckResult)
    (hResults : r.results = before ++ result :: after) (hIndex : PointsBetween index before after) :
    r.change index f = .ok ⟨before ++ f result :: after⟩ := by
  have hInside : before.length < (before ++ result :: after).length := by simp
  rw [change, placeOf?_between hResults hIndex, hResults]
  simp [List.modify_eq_take_cons_drop hInside]

theorem change_of_not_hasNumber (f : CheckResult → CheckResult) (h : ¬ r.HasNumber index) :
    r.change index f = .error .index := by rw [change, placeOf?_eq_none h]

theorem edit_remove_of_pointsBetween (hResults : r.results = before ++ result :: after)
    (hIndex : PointsBetween index before after) :
    r.edit (.remove index) = .ok ⟨before ++ after⟩ := by
  have hSome : r.results.isEmpty = false := by rw [hResults]; cases before <;> rfl
  rw [edit, hSome, if_neg Bool.false_ne_true, placeOf?_between hResults hIndex, hResults]
  simp [List.eraseIdx_append]

theorem edit_remove_of_not_hasNumber (h : ¬ r.HasNumber index) :
    ∃ fault, r.edit (.remove index) = .error fault := by
  rw [edit]
  split
  · exact ⟨_, rfl⟩
  · rw [placeOf?_eq_none h]
    exact ⟨_, rfl⟩

/-! Requests -/

/-- What a request does to a report if it is met. -/
inductive Effect (r : CheckReport) : EditRequest → CheckReport → Prop where
  | add {line : Int} {url expression name detail : String} {status : CheckStatus}
      (hName : status.name = name) :
      Effect r (.add line url expression name detail)
        ⟨r.results ++ [⟨line, url, expression, status, detail⟩]⟩
  | remove {index : Int} {before after : List CheckResult} {result : CheckResult}
      (hResults : r.results = before ++ result :: after)
      (hIndex : PointsBetween index before after) : Effect r (.remove index) ⟨before ++ after⟩
  | setStatus {index : Int} {name : String} {status : CheckStatus} {before after : List CheckResult}
      {result : CheckResult} (hName : status.name = name)
      (hResults : r.results = before ++ result :: after)
      (hIndex : PointsBetween index before after) :
      Effect r (.setStatus index name) ⟨before ++ { result with status := status } :: after⟩
  | setDetail {index : Int} {detail : String} {before after : List CheckResult} {result : CheckResult}
      (hResults : r.results = before ++ result :: after)
      (hIndex : PointsBetween index before after) :
      Effect r (.setDetail index detail) ⟨before ++ { result with detail := detail } :: after⟩

/-- A request that cannot be met: no status has the name, or no result the number. -/
def IsIdle (r : CheckReport) : EditRequest → Prop
  | .add _ _ _ name _ => ∀ status : CheckStatus, status.name ≠ name
  | .remove index => ¬ r.HasNumber index
  | .setStatus index name => (∀ status : CheckStatus, status.name ≠ name) ∨ ¬ r.HasNumber index
  | .setDetail index _ => ¬ r.HasNumber index

theorem statusNamed_name (status : CheckStatus) : statusNamed status.name = .ok status := by
  rw [statusNamed, CheckStatus.ofName?_eq_some_iff.mpr rfl]

theorem statusNamed_of_ne {name : String} (h : ∀ status : CheckStatus, status.name ≠ name) :
    statusNamed name = .error (.status name) := by
  rw [statusNamed, CheckStatus.ofName?_eq_none_iff.mpr h]

theorem request_of_effect {request : EditRequest} (h : Effect r request more) :
    r.request request = .ok more := by
  cases h with
  | add hName =>
    subst hName
    rw [CheckReport.request, EditRequest.edit, statusNamed_name]
    rfl
  | remove hResults hIndex => exact edit_remove_of_pointsBetween hResults hIndex
  | setStatus hName hResults hIndex =>
    subst hName
    rw [CheckReport.request, EditRequest.edit, statusNamed_name]
    exact change_of_pointsBetween _ hResults hIndex
  | setDetail hResults hIndex => exact change_of_pointsBetween _ hResults hIndex

theorem request_of_isIdle {request : EditRequest} (h : r.IsIdle request) :
    ∃ fault, r.request request = .error fault := by
  cases request with
  | add line url expression name detail =>
    rw [CheckReport.request, EditRequest.edit, statusNamed_of_ne h]
    exact ⟨_, rfl⟩
  | remove index => exact edit_remove_of_not_hasNumber h
  | setStatus index name =>
    by_cases hName : ∃ status : CheckStatus, status.name = name
    · obtain ⟨status, rfl⟩ := hName
      have hNumber := h.resolve_left fun hOther => hOther status rfl
      rw [CheckReport.request, EditRequest.edit, statusNamed_name]
      exact ⟨_, change_of_not_hasNumber _ hNumber⟩
    · rw [CheckReport.request, EditRequest.edit, statusNamed_of_ne (not_exists.mp hName)]
      exact ⟨_, rfl⟩
  | setDetail index detail => exact ⟨_, change_of_not_hasNumber _ h⟩

theorem exists_effect {request : EditRequest} (h : ¬ r.IsIdle request) :
    ∃ more, Effect r request more := by
  cases request with
  | add line url expression name detail =>
    obtain ⟨status, hName⟩ := not_forall_not.mp h
    exact ⟨_, .add hName⟩
  | remove index =>
    obtain ⟨before, result, after, hResults, hIndex⟩ := exists_between (not_not.mp h)
    exact ⟨_, .remove hResults hIndex⟩
  | setStatus index name =>
    obtain ⟨hName, hNumber⟩ := not_or.mp h
    obtain ⟨status, hName⟩ := not_forall_not.mp hName
    obtain ⟨before, result, after, hResults, hIndex⟩ := exists_between (not_not.mp hNumber)
    exact ⟨_, .setStatus hName hResults hIndex⟩
  | setDetail index detail =>
    obtain ⟨before, result, after, hResults, hIndex⟩ := exists_between (not_not.mp h)
    exact ⟨_, .setDetail hResults hIndex⟩

/-- A request is met with its effect or cannot be met. -/
theorem after_cases (r : CheckReport) (request : EditRequest) :
    Effect r request (r.after request) ∧ r.request request = .ok (r.after request) ∨
      r.IsIdle request ∧ (∃ fault, r.request request = .error fault) ∧ r.after request = r := by
  by_cases hIdle : r.IsIdle request
  · obtain ⟨fault, hFault⟩ := request_of_isIdle hIdle
    exact Or.inr ⟨hIdle, ⟨fault, hFault⟩, by rw [CheckReport.after, hFault]⟩
  · obtain ⟨more, hEffect⟩ := exists_effect hIdle
    have hRequest := request_of_effect hEffect
    have hAfter : r.after request = more := by rw [CheckReport.after, hRequest]
    exact Or.inl (hAfter ▸ ⟨hEffect, hRequest⟩)

/-! Counts -/

theorem count_append (xs ys : List CheckResult) (status : CheckStatus) :
    count ⟨xs ++ ys⟩ status = count ⟨xs⟩ status + count ⟨ys⟩ status := List.countP_append

theorem count_cons (result : CheckResult) (xs : List CheckResult) (status : CheckStatus) :
    count ⟨result :: xs⟩ status = count ⟨xs⟩ status + if result.status = status then 1 else 0 := by
  rw [count, List.countP_cons]
  simp only [beq_iff_eq]
  rfl

theorem sum_count (xs : List CheckResult) : count ⟨xs⟩ .matched + count ⟨xs⟩ .notMatched +
    count ⟨xs⟩ .invalid + count ⟨xs⟩ .error = xs.length := by
  induction xs with
  | nil => rfl
  | cons result xs ih =>
    simp only [count_cons, List.length_cons, ← ih]
    cases result.status <;> simp <;> omega

/-- One unit goes from the count of the first status to that of the second; none does if they are the
same. -/
def Moves (r more : CheckReport) (old new : CheckStatus) : Prop :=
  ∀ status, more.count status + (if old = status then 1 else 0) =
    r.count status + if new = status then 1 else 0

theorem moves_replace (old new : CheckResult) :
    Moves ⟨before ++ old :: after⟩ ⟨before ++ new :: after⟩ old.status new.status := by
  intro status
  simp only [count_append, count_cons]
  omega

theorem moves_of_setStatus {name : String} (h : Effect r (.setStatus index name) more) :
    ∃ before result after status, status.name = name ∧ r.results = before ++ result :: after ∧
      PointsBetween index before after ∧
      more.results = before ++ { result with status := status } :: after ∧
      Moves r more result.status status := by
  obtain ⟨results⟩ := r
  cases h with
  | setStatus hName hResults hIndex =>
    cases hResults
    exact ⟨_, _, _, _, hName, rfl, hIndex, rfl, moves_replace _ _⟩

theorem moves_of_setDetail {detail : String} (h : Effect r (.setDetail index detail) more) :
    ∃ status, Moves r more status status := by
  obtain ⟨results⟩ := r
  cases h with
  | setDetail hResults hIndex =>
    cases hResults
    exact ⟨_, moves_replace _ _⟩

theorem count_of_setDetail {detail : String} (h : Effect r (.setDetail index detail) more) :
    more.count = r.count := by
  obtain ⟨kept, hMoves⟩ := moves_of_setDetail h
  funext status
  exact Nat.add_right_cancel (hMoves status)

/-- The counts of a report agree with one another and with its results. -/
structure Agrees (r : CheckReport) : Prop where
  total : r.matched + r.failed = r.results.length
  summary : r.summary = [("matched", r.matched), ("not_matched", r.count .notMatched),
    ("invalid", r.count .invalid), ("error", r.count .error), ("total", r.results.length)]
  sum : r.matched + r.count .notMatched + r.count .invalid + r.count .error = r.results.length
  failed : r.failed = r.count .notMatched + r.count .invalid + r.count .error
  ok : r.isOk = true ↔ ∀ result ∈ r.results, result.status = .matched

theorem agrees (r : CheckReport) : Agrees r := by
  have hSum : r.matched + r.count .notMatched + r.count .invalid + r.count .error = r.results.length :=
    sum_count r.results
  have hFailed : r.failed = r.results.length - r.matched := rfl
  refine ⟨by omega, rfl, hSum, by omega, ?_⟩
  have hAll : r.matched = r.results.length ↔ ∀ result ∈ r.results, result.status = .matched := by
    rw [matched, List.countP_eq_length]
    simp only [CheckResult.isMatched, beq_iff_eq]
  rw [← hAll, isOk, beq_iff_eq]
  omega

/-- What comes of a request: its effect, or nothing if it cannot be met. -/
structure Answers (r : CheckReport) (request : EditRequest) (next : CheckReport) : Prop where
  met : ∀ more, r.request request = .ok more → next = more ∧ Effect r request more
  fails_iff : (∃ fault, r.request request = .error fault) ↔ r.IsIdle request
  failed : ∀ fault, r.request request = .error fault → next.results = r.results
  setStatus : ∀ index name, request = .setStatus index name →
    ∀ more, r.request request = .ok more → ∃ before result after status, status.name = name ∧
      r.results = before ++ result :: after ∧ PointsBetween index before after ∧
      next.results = before ++ { result with status := status } :: after ∧
      Moves r next result.status status
  setDetail : ∀ index detail, request = .setDetail index detail →
    ∀ more, r.request request = .ok more → next.count = r.count

theorem answers_after (r : CheckReport) (request : EditRequest) :
    Answers r request (r.after request) := by
  rcases after_cases r request with ⟨hEffect, hRequest⟩ | ⟨hIdle, ⟨fault, hFault⟩, hSame⟩
  · have hMore {more : CheckReport} (h : r.request request = .ok more) : r.after request = more :=
      Except.ok.inj (hRequest.symm.trans h)
    have hNo {fault : EditFault} : r.request request ≠ .error fault := by
      rw [hRequest]
      nofun
    refine ⟨fun more h => ⟨hMore h, hMore h ▸ hEffect⟩, ?_, fun fault h => absurd h hNo, ?_, ?_⟩
    · refine iff_of_false (fun ⟨fault, h⟩ => hNo h) fun hIdle => ?_
      obtain ⟨fault, h⟩ := request_of_isIdle hIdle
      exact hNo h
    · rintro index name rfl _ _
      exact moves_of_setStatus hEffect
    · rintro index detail rfl _ _
      exact count_of_setDetail hEffect
  · have hNo {more : CheckReport} : r.request request ≠ .ok more := by
      rw [hFault]
      nofun
    refine ⟨fun more h => absurd h hNo, iff_of_true ⟨fault, hFault⟩ hIdle, fun _ _ => by rw [hSame], ?_, ?_⟩
    · exact fun _ _ _ more h => absurd h hNo
    · exact fun _ _ _ more h => absurd h hNo

theorem edited_append (requests : List EditRequest) (request : EditRequest) :
    edited (requests ++ [request]) = (edited requests).after request := by
  rw [edited, List.foldl_append]
  rfl

/-- Whatever was asked for so far, the counts agree, and the next request does what it says or nothing. -/
theorem edited_agrees (requests : List EditRequest) :
    Agrees (edited requests) ∧
      ∀ request, Answers (edited requests) request (edited (requests ++ [request])) := by
  refine ⟨agrees _, fun request => ?_⟩
  rw [edited_append]
  exact answers_after _ request

-- The last result is found invalid, no result has the number 2, and no status is called "late".
example : (edited [.add 1 "u" "e" "matched" "", .add 2 "v" "f" "matched" "",
    .setStatus (-1) "invalid", .setDetail 2 "gone", .setStatus 0 "late", .remove (-2)]).summary =
      [("matched", 0), ("not_matched", 0), ("invalid", 1), ("error", 0), ("total", 1)] := by
  decide

end CheckReport

end PageCheck
