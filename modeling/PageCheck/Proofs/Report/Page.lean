import PageCheck.Proofs.Report.Escape
import PageCheck.Report.Page

/-!
# Pages of reports

A page that follows the usual template is an opening that holds the verdict and the counts, a row
for every result, and a closing that is always the same. Only the rows hold texts of the results.
-/

namespace PageCheck.Template

set_option autoImplicit false

open Markup (IsEscaped escapeChars)

def slot (s : String) : List Char := escapeChars s.toList

/-- The characters of lines, with a line end between any two of them. -/
def joinedChars (lines : List String) : List Char := ['\n'].intercalate (lines.map String.toList)

def countOf (summary : List (String × Nat)) (name : String) : String :=
  Slot.entryOf (summary.map fun (key, n) => (key, toString n)) name

def verdict (ok : Bool) : String := if ok then "OK" else "FAILED"

/-- What stands before the rows: of a report only the verdict and the counts. -/
def opening (ok : Bool) (summary : List (String × Nat)) : List Char :=
  let count (name : String) : List Char := slot (countOf summary name)
  List.flatten
    [joinedChars head, slot (verdict ok),
      "</h1>\n  <p>\n    ".toList, count "total", " checks:\n    ".toList, count "matched",
      " matched,\n    ".toList, count "not_matched", " not matched,\n    ".toList, count "invalid",
      " invalid,\n    ".toList, count "error", joinedChars tableHead]

def closing : List Char := joinedChars foot

/-- The row of the template with its slots filled. -/
def rowWith (status line url expression detail : List Char) : List Char :=
  List.flatten
    ["\n      <tr class=\"".toList, status, "\">\n        <td>".toList, line,
      "</td>\n        <td><a href=\"".toList, url, "\">".toList, url,
      "</a></td>\n        <td><code>".toList, expression, "</code></td>\n        <td>".toList, status,
      "</td>\n        <td>".toList, detail, "</td>\n      </tr>\n    ".toList]

def rowOf (result : CheckResult) : List Char :=
  rowWith (slot result.status.name) (slot (toString result.line)) (slot result.url)
    (slot result.expression) (slot result.detail)

section

variable (report : CheckReport) (result : CheckResult) (shown : Option CheckResult)
  (pieces : List Piece)

theorem toList_renderAll_nil : (Piece.renderAll report shown []).toList = [] := rfl

theorem toList_renderAll_text (s : String) : (Piece.renderAll report shown (.text s :: pieces)).toList =
    s.toList ++ (Piece.renderAll report shown pieces).toList := by
  rw [Piece.renderAll, List.map_cons, String.toList_join, List.flatMap_cons, ← String.toList_join]
  rfl

theorem toList_renderAll_joined (lines : List String) :
    (Piece.renderAll report shown (joined lines :: pieces)).toList =
      joinedChars lines ++ (Piece.renderAll report shown pieces).toList := by
  rw [joined, toList_renderAll_text, String.toList_intercalate]
  rfl

theorem toList_renderAll_slot (s : Slot) : (Piece.renderAll report shown (.slot s :: pieces)).toList =
    slot (s.fill report shown) ++ (Piece.renderAll report shown pieces).toList := by
  rw [Piece.renderAll, List.map_cons, String.toList_join, List.flatMap_cons, ← String.toList_join,
    Piece.render, Markup.escape, String.toList_ofList]
  rfl

theorem toList_renderRow : (standard.renderRow report result).toList = rowOf result := by
  simp only [renderRow, standard, toList_renderAll_text, toList_renderAll_slot, toList_renderAll_nil]
  rfl

end

theorem toList_render (r : CheckReport) : (standard.render r).toList =
    opening r.isOk r.summary ++ r.results.flatMap rowOf ++ closing := by
  have hRows : (String.join (r.results.map (standard.renderRow r))).toList = r.results.flatMap rowOf := by
    rw [String.toList_join, List.flatMap_map]
    exact congrArg (List.flatMap · r.results) (funext (toList_renderRow r))
  have hBefore : (Piece.renderAll r none standard.before).toList = opening r.isOk r.summary := by
    simp only [standard, toList_renderAll_joined, toList_renderAll_text, toList_renderAll_slot,
      toList_renderAll_nil]
    rfl
  have hAfter : (Piece.renderAll r none standard.after).toList = closing := by
    simp only [standard, toList_renderAll_joined, toList_renderAll_nil, closing, List.append_nil]
  rw [render, String.toList_append, String.toList_append, hBefore, hRows, hAfter]

/-- A block of a page is the row of a result, with its slots filled by escaped texts. -/
def IsRow (block : List Char) (result : CheckResult) : Prop :=
  ∃ status line url expression detail, block = rowWith status line url expression detail ∧
    IsEscaped status result.status.name.toList ∧ IsEscaped line (toString result.line).toList ∧
    IsEscaped url result.url.toList ∧ IsEscaped expression result.expression.toList ∧
    IsEscaped detail result.detail.toList

theorem isRow_rowOf (result : CheckResult) : IsRow (rowOf result) result := by
  refine ⟨_, _, _, _, _, rfl, ?_, ?_, ?_, ?_, ?_⟩ <;> exact Markup.isEscaped_escapeChars _

end PageCheck.Template
