import PageCheck.Proofs.Json.RoundTrip
import PageCheck.Proofs.Report.Save

/-!
# Reports as JSON

The JSON text of a report, compact or pretty, is read as the summary and the results of the report,
and no other report has the same text. The saved file holds that text.
-/

namespace PageCheck

set_option autoImplicit false

open Json (ReadsBack keyed)

theorem CheckResult.readsBack_toValue {result : CheckResult}
    (h : result.line.natAbs < Nat.pow 10 Text.digitLimit) : ReadsBack result.toValue := by
  have hEntries : result.toValue = .map (keyed [("line", .int result.line), ("url", .text result.url),
      ("expression", .text result.expression), ("status", .text result.status.name),
      ("detail", .text result.detail)]) := rfl
  rw [hEntries]
  refine Json.readsBack_map (by simp) ?_
  simp only [List.mem_cons, List.not_mem_nil, or_false]
  rintro entry (rfl | rfl | rfl | rfl | rfl)
  · exact Json.readsBack_int h
  · exact Json.readsBack_text _
  · exact Json.readsBack_text _
  · exact Json.readsBack_text _
  · exact Json.readsBack_text _

theorem CheckResult.toValue_injective {a b : CheckResult} (h : a.toValue = b.toValue) : a = b := by
  simp only [toValue, Value.map.injEq, List.cons.injEq, Prod.mk.injEq, Value.int.injEq, Value.text.injEq,
    true_and, and_true] at h
  obtain ⟨hLine, hUrl, hExpression, hStatus, hDetail⟩ := h
  have hStatus := CheckStatus.name_injective hStatus
  cases a
  cases b
  simp_all

namespace CheckReport

variable {r other : CheckReport}

/-- No number in the report has more digits than a number may have to be read. -/
structure HasShortNumbers (r : CheckReport) : Prop where
  lines : ∀ result ∈ r.results, result.line.natAbs < Nat.pow 10 Text.digitLimit
  size : r.results.length < Nat.pow 10 Text.digitLimit

theorem le_length_of_mem_summary {entry : String × Nat} (h : entry ∈ r.summary) :
    entry.2 ≤ r.results.length := by
  simp only [summary, List.mem_append, List.mem_map, List.mem_singleton] at h
  rcases h with ⟨status, _, rfl⟩ | rfl
  · exact List.countP_le_length
  · exact Nat.le_refl _

theorem readsBack_summaryValue (h : r.HasShortNumbers) : ReadsBack r.summaryValue := by
  have hEntries : r.summaryValue = .map (keyed (r.summary.map fun entry => (entry.1, .int entry.2))) := by
    simp [summaryValue, keyed]
  rw [hEntries]
  refine Json.readsBack_map ?_ ?_
  · have hNames : (r.summary.map fun entry => (entry.1, Value.int entry.2)).map (·.1) =
        ["matched", "not_matched", "invalid", "error", "total"] := rfl
    rw [hNames]
    decide
  · intro entry hMem
    obtain ⟨count, hCount, rfl⟩ := List.mem_map.mp hMem
    exact Json.readsBack_int (Nat.lt_of_le_of_lt (le_length_of_mem_summary hCount) h.size)

theorem readsBack_toValue (h : r.HasShortNumbers) : ReadsBack r.toValue := by
  have hEntries : r.toValue = .map (keyed [("summary", r.summaryValue),
      ("results", .list (r.results.map CheckResult.toValue))]) := rfl
  rw [hEntries]
  refine Json.readsBack_map (by simp) ?_
  simp only [List.mem_cons, List.not_mem_nil, or_false]
  rintro entry (rfl | rfl)
  · exact readsBack_summaryValue h
  · refine Json.readsBack_list fun v hMem => ?_
    obtain ⟨result, hResult, rfl⟩ := List.mem_map.mp hMem
    exact CheckResult.readsBack_toValue (h.lines result hResult)

theorem read_json (h : r.HasShortNumbers) (pretty : Bool) :
    Json.read (r.json pretty).toList = .ok r.toValue := by
  cases pretty with
  | false =>
    rw [json, if_neg Bool.false_ne_true, Json.compact, String.toList_ofList]
    exact Json.read_of_readsBack (readsBack_toValue h) none
  | true =>
    rw [json, if_pos rfl, Json.pretty, String.toList_ofList]
    exact Json.read_of_readsBack (readsBack_toValue h) (some 0)

theorem toValue_injective (h : r.toValue = other.toValue) : r = other := by
  simp only [toValue, Value.map.injEq, List.cons.injEq, Prod.mk.injEq, Value.list.injEq, true_and,
    and_true] at h
  cases r
  cases other
  exact congrArg CheckReport.mk (List.map_injective_iff.mpr (fun _ _ => CheckResult.toValue_injective) h.2)

/-- Both forms of a report are read as its summary and its results, a file holds exactly the form
that was asked for, and no other report has the same text in any form. -/
theorem json_lossless (h : r.HasShortNumbers) :
    (∀ pretty, Json.read (r.json pretty).toList = .ok r.toValue) ∧
    (∀ pretty p files, (r.saveJson pretty p files).fault = none →
      (r.saveJson pretty p files).files.bytes p = .ok (r.json pretty).toUTF8.data.toList) ∧
    ∀ other : CheckReport, other.HasShortNumbers → ∀ pretty pretty',
      other.json pretty' = r.json pretty → other = r := by
  refine ⟨read_json h, fun pretty p files hSaved => bytes_of_saveJson hSaved, ?_⟩
  intro other hOther pretty pretty' hText
  have hRead := read_json hOther pretty'
  rw [hText, read_json h pretty] at hRead
  exact (toValue_injective (Except.ok.inj hRead)).symm

theorem json_lossless_control :
    let r : CheckReport := ⟨[⟨-3, "\"\\\n", "\x01é", .error, "]\x7d,"⟩]⟩
    r.HasShortNumbers ∧ Json.read (r.json true).toList = .ok r.toValue ∧
      Json.read (r.json false).toList = .ok r.toValue := by
  intro r
  have hShort : r.HasShortNumbers := by
    constructor
    · rintro result (_ | ⟨_, ⟨⟩⟩)
      have hThree : 3 < 10 := by decide
      exact Text.lt_pow_of_lt_ten hThree
    · have hOne : 1 < 10 := by decide
      exact Text.lt_pow_of_lt_ten hOne
  exact ⟨hShort, (json_lossless hShort).1 true, (json_lossless hShort).1 false⟩

end CheckReport

end PageCheck
