import PageCheck.Fetch
import PageCheck.Proofs.Text.Decimal

/-!
# How a request ends

A page comes of an answer with a status in the two hundreds whose body can be read, and of nothing
else. The body of an answer with another status is not looked at. A failure counts as one of time
before anything else that it is; what is no failure of time, of the request or of the bytes escapes.
A status with too many digits cannot be named, and that escapes too.
-/

namespace PageCheck

set_option autoImplicit false

/-- The request fails, or the body of an answer that is welcome cannot be read. -/
inductive Response.Raises : Response → Failure → Prop where
  | request (failure : Failure) : Raises (.failure failure) failure
  | body {status : Int} {body : Body} {failure : Failure} (hStatus : 200 ≤ status ∧ status ≤ 299)
      (hRead : body.read = .error failure) : Raises (.answer status body) failure

theorem Pages.answer_single (url : String) (r : Response) : Pages.answer ⟨[(url, r)]⟩ url = r := by
  have hFirst : [(url, r)].find? (·.1 == url) = some (url, r) :=
    List.find?_cons_of_pos (beq_self_eq_true url)
  rw [answer, hFirst]

theorem FailureKind.isForeign_iff {kind : FailureKind} : kind.isForeign = true ↔
    kind.isTimeout = false ∧ kind.isClient = false ∧ kind.isDecoding = false := by
  rw [isForeign, Bool.not_eq_true', Bool.or_eq_false_iff, Bool.or_eq_false_iff, and_assoc]

namespace Fetch

variable {url : String} {r : Response} {failure : Failure}

theorem isSuccess_iff {status : Int} : isSuccess status = true ↔ 200 ≤ status ∧ status ≤ 299 := by
  rw [isSuccess, Bool.and_eq_true, decide_eq_true_eq, decide_eq_true_eq]

theorem stopOf_ne_silence (url : String) (failure : Failure) : stopOf url failure ≠ .silence := by
  unfold stopOf
  split
  · exact nofun
  · split <;> exact nofun

theorem stopOf_eq_escaped_iff {other : Failure} : stopOf url failure = .escaped other ↔
    failure = other ∧ failure.kind.isTimeout = false ∧ failure.kind.isClient = false ∧
      failure.kind.isDecoding = false := by
  rw [← FailureKind.isForeign_iff]
  unfold stopOf
  split
  · rename_i hTime
    refine iff_of_false nofun ?_
    rintro ⟨_, hForeign⟩
    rw [(FailureKind.isForeign_iff.mp hForeign).1] at hTime
    cases hTime
  · split
    · rename_i hForeign
      rw [FetchStop.escaped.injEq, and_iff_left hForeign]
    · rename_i hKnown
      exact iff_of_false nofun fun h => hKnown h.2

theorem stopOf_eq_failed_iff {e : FetchError} : stopOf url failure = .failed e ↔
    (failure.kind.isTimeout = true ∧ e = ⟨url, "timed out", none⟩) ∨
      (failure.kind.isTimeout = false ∧
        (failure.kind.isClient = true ∨ failure.kind.isDecoding = true) ∧
        e = ⟨url, if failure.text = "" then failure.kind.name else failure.text, none⟩) := by
  unfold stopOf
  cases hTime : failure.kind.isTimeout with
  | true =>
    rw [if_pos rfl, FetchStop.failed.injEq, eq_comm]
    simp [FetchError.timedOut]
  | false =>
    have hForeign : failure.kind.isForeign = false ↔
        failure.kind.isClient = true ∨ failure.kind.isDecoding = true := by
      rw [FailureKind.isForeign, hTime, Bool.false_or, Bool.not_eq_false', Bool.or_eq_true]
    rw [if_neg Bool.false_ne_true, ← hForeign]
    cases failure.kind.isForeign with
    | true => simp
    | false =>
      rw [if_neg Bool.false_ne_true, FetchStop.failed.injEq, eq_comm]
      simp [FetchError.described]

/-- The ways in which the request for the page at a URL can end. -/
inductive Ends (url : String) : Response → Except FetchStop Page → Prop where
  | silent : Ends url .silence (.error .silence)
  | page {status : Int} {body : Body} {text : String} (hStatus : 200 ≤ status ∧ status ≤ 299)
      (hRead : body.read = .ok text) : Ends url (.answer status body) (.ok ⟨url, text, status⟩)
  | refused {status : Int} {body : Body} (hStatus : ¬ (200 ≤ status ∧ status ≤ 299))
      (hShort : Text.isLong status = false) :
      Ends url (.answer status body) (.error (.failed (.ofStatus url status)))
  | unnamed {status : Int} {body : Body} (hStatus : ¬ (200 ≤ status ∧ status ≤ 299))
      (hLong : Text.isLong status = true) : Ends url (.answer status body) (.error (.escaped .longNumber))
  | stopped {r : Response} {failure : Failure} (hRaises : r.Raises failure) :
      Ends url r (.error (stopOf url failure))

theorem ends_outcome (url : String) (r : Response) : Ends url r (outcome url r) := by
  cases r with
  | silence => exact .silent
  | failure failure => exact .stopped (.request failure)
  | answer status body =>
    rw [outcome]
    split
    · rename_i hSuccess
      have hStatus := isSuccess_iff.mp hSuccess
      split
      · rename_i text hRead
        exact .page hStatus hRead
      · rename_i failure hRead
        exact .stopped (.body hStatus hRead)
    · rename_i hFailure
      have hStatus : ¬ (200 ≤ status ∧ status ≤ 299) := fun h => hFailure (isSuccess_iff.mpr h)
      rw [stopOfStatus]
      split
      · rename_i hLong
        exact .unnamed hStatus hLong
      · rename_i hShort
        exact .refused hStatus (Bool.eq_false_iff.mpr hShort)

theorem outcome_of_raises (h : r.Raises failure) : outcome url r = .error (stopOf url failure) := by
  cases h with
  | request => rfl
  | body hStatus hRead => rw [outcome, if_pos (isSuccess_iff.mpr hStatus), hRead]

theorem outcome_of_page {status : Int} {body : Body} {text : String}
    (hStatus : 200 ≤ status ∧ status ≤ 299) (hRead : body.read = .ok text) :
    outcome url (.answer status body) = .ok ⟨url, text, status⟩ := by
  rw [outcome, if_pos (isSuccess_iff.mpr hStatus), hRead]

theorem outcome_of_refused {status : Int} (hStatus : ¬ (200 ≤ status ∧ status ≤ 299)) (body : Body) :
    outcome url (.answer status body) = .error (stopOfStatus url status) := by
  rw [outcome, if_neg fun hSuccess => hStatus (isSuccess_iff.mp hSuccess)]

/-- A response ends the request in one way only. -/
theorem ends_iff {x : Except FetchStop Page} : Ends url r x ↔ outcome url r = x := by
  constructor
  · intro h
    cases h with
    | silent => rfl
    | page hStatus hRead => exact outcome_of_page hStatus hRead
    | refused hStatus hShort =>
      rw [outcome_of_refused hStatus, stopOfStatus, hShort, if_neg Bool.false_ne_true]
    | unnamed hStatus hLong => rw [outcome_of_refused hStatus, stopOfStatus, hLong, if_pos rfl]
    | stopped hRaises => exact outcome_of_raises hRaises
  · rintro rfl
    exact ends_outcome url r

theorem ends_page_iff {page : Page} : Ends url r (.ok page) ↔ ∃ status body text,
    r = .answer status body ∧ (200 ≤ status ∧ status ≤ 299) ∧ body.read = .ok text ∧
      page = ⟨url, text, status⟩ := by
  constructor
  · intro h
    cases h with
    | page hStatus hRead => exact ⟨_, _, _, rfl, hStatus, hRead, rfl⟩
  · rintro ⟨status, body, text, rfl, hStatus, hRead, rfl⟩
    exact .page hStatus hRead

/-- An answer with a status that is not welcome. -/
def Refuses (r : Response) (status : Int) : Prop :=
  ∃ body, r = .answer status body ∧ ¬ (200 ≤ status ∧ status ≤ 299)

theorem ends_error_iff {stop : FetchStop} : Ends url r (.error stop) ↔
    (r = .silence ∧ stop = .silence) ∨
    (∃ status, Refuses r status ∧ Text.isLong status = false ∧ stop = .failed (.ofStatus url status)) ∨
    (∃ status, Refuses r status ∧ Text.isLong status = true ∧ stop = .escaped .longNumber) ∨
    ∃ failure, r.Raises failure ∧ stop = stopOf url failure := by
  constructor
  · intro h
    cases h with
    | silent => exact Or.inl ⟨rfl, rfl⟩
    | refused hStatus hShort => exact Or.inr (Or.inl ⟨_, ⟨_, rfl, hStatus⟩, hShort, rfl⟩)
    | unnamed hStatus hLong => exact Or.inr (Or.inr (Or.inl ⟨_, ⟨_, rfl, hStatus⟩, hLong, rfl⟩))
    | stopped hRaises => exact Or.inr (Or.inr (Or.inr ⟨_, hRaises, rfl⟩))
  · rintro (⟨rfl, rfl⟩ | ⟨status, ⟨body, rfl, hStatus⟩, hShort, rfl⟩ |
      ⟨status, ⟨body, rfl, hStatus⟩, hLong, rfl⟩ | ⟨failure, hRaises, rfl⟩)
    · exact .silent
    · exact .refused hStatus hShort
    · exact .unnamed hStatus hLong
    · exact .stopped hRaises

theorem ends_failed_iff {e : FetchError} : Ends url r (.error (.failed e)) ↔
    (∃ status, Refuses r status ∧ Text.isLong status = false ∧ e = .ofStatus url status) ∨
    ∃ failure, r.Raises failure ∧ stopOf url failure = .failed e := by
  rw [ends_error_iff]
  constructor
  · rintro (⟨_, hStop⟩ | ⟨status, hRefuses, hShort, hStop⟩ | ⟨_, _, _, hStop⟩ | ⟨failure, hRaises, hStop⟩)
    · cases hStop
    · exact Or.inl ⟨status, hRefuses, hShort, FetchStop.failed.inj hStop⟩
    · cases hStop
    · exact Or.inr ⟨failure, hRaises, hStop.symm⟩
  · rintro (⟨status, hRefuses, hShort, rfl⟩ | ⟨failure, hRaises, hStop⟩)
    · exact Or.inr (Or.inl ⟨status, hRefuses, hShort, rfl⟩)
    · exact Or.inr (Or.inr (Or.inr ⟨failure, hRaises, hStop.symm⟩))

theorem ends_escaped_iff : Ends url r (.error (.escaped failure)) ↔
    (∃ status, Refuses r status ∧ Text.isLong status = true ∧ failure = .longNumber) ∨
    (r.Raises failure ∧ failure.kind.isTimeout = false ∧ failure.kind.isClient = false ∧
      failure.kind.isDecoding = false) := by
  rw [ends_error_iff]
  constructor
  · rintro (⟨_, hStop⟩ | ⟨_, _, _, hStop⟩ | ⟨status, hRefuses, hLong, hStop⟩ | ⟨_, hRaises, hStop⟩)
    · cases hStop
    · cases hStop
    · exact Or.inl ⟨status, hRefuses, hLong, FetchStop.escaped.inj hStop⟩
    · obtain ⟨rfl, hForeign⟩ := stopOf_eq_escaped_iff.mp hStop.symm
      exact Or.inr ⟨hRaises, hForeign⟩
  · rintro (⟨status, hRefuses, hLong, rfl⟩ | ⟨hRaises, hForeign⟩)
    · exact Or.inr (Or.inr (Or.inl ⟨status, hRefuses, hLong, rfl⟩))
    · have hStop : stopOf url failure = .escaped failure := stopOf_eq_escaped_iff.mpr ⟨rfl, hForeign⟩
      exact Or.inr (Or.inr (Or.inr ⟨failure, hRaises, hStop.symm⟩))

theorem ends_silent_iff : Ends url r (.error .silence) ↔ r = .silence := by
  rw [ends_error_iff]
  constructor
  · rintro (⟨hSilence, _⟩ | ⟨_, _, _, hStop⟩ | ⟨_, _, _, hStop⟩ | ⟨failure, _, hStop⟩)
    · exact hSilence
    · cases hStop
    · cases hStop
    · exact absurd hStop.symm (stopOf_ne_silence url failure)
  · exact fun hSilence => Or.inl ⟨hSilence, rfl⟩

theorem status_of_stopOf {e : FetchError} (h : stopOf url failure = .failed e) : e.status = none := by
  rcases stopOf_eq_failed_iff.mp h with ⟨_, rfl⟩ | ⟨_, _, rfl⟩
  · rfl
  · rfl

theorem url_of_ends_failed {e : FetchError} (h : Ends url r (.error (.failed e))) : e.url = url := by
  rcases ends_failed_iff.mp h with ⟨_, _, _, rfl⟩ | ⟨_, _, hStop⟩
  · rfl
  · rcases stopOf_eq_failed_iff.mp hStop with ⟨_, rfl⟩ | ⟨_, _, rfl⟩
    · rfl
    · rfl

theorem value_fetch_iff {pages : Pages} {x : Except FetchStop Page} :
    (fetch pages url).value = x ↔ Ends url (pages.answer url) x :=
  ends_iff.symm

theorem value_fetch_of_answer {pages : Pages} {content : String} {status : Int} {body : Body}
    (hAnswer : pages.answer url = .answer status body) (hFirst : 200 ≤ status) (hLast : status ≤ 299)
    (hBody : body.read = .ok content) : (fetch pages url).value = .ok ⟨url, content, status⟩ :=
  value_fetch_iff.mpr
    (ends_page_iff.mpr ⟨status, body, content, hAnswer, ⟨hFirst, hLast⟩, hBody, rfl⟩)

theorem reason_ne_empty {e : FetchError} (h : Ends url r (.error (.failed e))) : e.reason ≠ "" := by
  rcases ends_failed_iff.mp h with ⟨status, _, _, rfl⟩ | ⟨failure, _, hStop⟩
  · rw [FetchError.ofStatus, ne_eq, String.append_eq_empty_iff]
    exact fun hEmpty => absurd hEmpty.1 (by decide)
  · rcases stopOf_eq_failed_iff.mp hStop with ⟨_, rfl⟩ | ⟨_, _, rfl⟩
    · have hText : "timed out" ≠ "" := by decide
      exact hText
    · dsimp only
      split
      · exact failure.kind.name_ne_empty
      · assumption

end Fetch

end PageCheck
