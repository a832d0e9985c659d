import PageCheck.Proofs.Report.Save
import PageCheck.Report.Raw

/-!
# Pages with halves of characters

As long as all codes of a report are characters, its page is the page of the texts. One half in a
field is enough for the page not to be written, whatever else the report holds.
-/

namespace PageCheck

set_option autoImplicit false

open Text (Codes written_ofString written_of_half)

theorem Text.Codes.shown_ofString (s : String) : (ofString s).shown = s := by
  have hChars : (ofChars s.toList).map Code.shown = s.toList := by
    rw [ofChars, List.map_map]
    exact List.map_id _
  rw [shown, ofString, hChars, String.ofList_toList]

theorem CheckResult.shown_raw (r : CheckResult) : r.raw.shown = r := by
  simp only [raw, RawResult.shown, Codes.shown_ofString]

theorem CheckReport.shown_raw (r : CheckReport) : r.raw.shown = r := by
  have hSelf : RawResult.shown ∘ CheckResult.raw = id := funext CheckResult.shown_raw
  rw [raw, RawReport.shown, List.map_map, hSelf, List.map_id]

theorem Markup.escapeCodes_ofChars (s : List Char) :
    escapeCodes (Codes.ofChars s) = Codes.ofChars (escapeChars s) := by
  induction s with
  | nil => rfl
  | cons c rest ih =>
    have hRest : escapeCodes (.char c :: Codes.ofChars rest) =
        Codes.ofChars (escapeChar c) ++ escapeCodes (Codes.ofChars rest) := rfl
    have hChars : escapeChars (c :: rest) = escapeChar c ++ escapeChars rest := rfl
    rw [Codes.ofChars_cons, hRest, ih, hChars, Codes.ofChars_append]

theorem Markup.escapeCodes_ofString (s : String) :
    escapeCodes (Codes.ofString s) = Codes.ofString (escape s) := by
  rw [Codes.ofString, escapeCodes_ofChars, escape, Codes.ofString, String.toList_ofList]

theorem Text.Codes.ofString_join (texts : List String) :
    ofString (String.join texts) = texts.flatMap ofString := by
  induction texts with
  | nil => rfl
  | cons s texts ih => rw [String.join_cons, ofString_append, ih, List.flatMap_cons]

section

variable (report : CheckReport) (result : Option CheckResult)

theorem Slot.codesOf_map (entries : List (String × String)) (name : String) :
    codesOf (entries.map fun (key, s) => (key, Codes.ofString s)) name =
      Codes.ofString (entryOf entries name) := by
  induction entries with
  | nil => rfl
  | cons entry entries ih =>
    rw [List.map_cons, codesOf, entryOf, List.find?_cons, List.find?_cons]
    cases entry.1 == name with
    | true => rfl
    | false => exact ih

theorem Slot.fillCodes_raw (s : Slot) :
    s.fillCodes report.raw (result.map CheckResult.raw) = Codes.ofString (s.fill report result) := by
  cases s with
  | field name =>
    cases result with
    | none => rfl
    | some result => exact codesOf_map result.shown name
  | _ =>
    rw [fillCodes, CheckReport.shown_raw]
    · rfl
    · intro name hField
      cases hField

theorem Piece.renderCodes_raw (piece : Piece) :
    piece.renderCodes report.raw (result.map CheckResult.raw) =
      Codes.ofString (piece.render report result) := by
  cases piece with
  | text s => rfl
  | slot s => rw [renderCodes, Slot.fillCodes_raw, Markup.escapeCodes_ofString, render]

theorem Piece.renderAllCodes_raw (pieces : List Piece) :
    renderAllCodes report.raw (result.map CheckResult.raw) pieces =
      Codes.ofString (renderAll report result pieces) := by
  rw [renderAllCodes, renderAll, Codes.ofString_join, List.flatMap_map]
  exact congrArg (List.flatMap · pieces) (funext (renderCodes_raw report result))

end

theorem Template.renderCodes_raw (t : Template) (report : CheckReport) :
    t.renderCodes report.raw = Codes.ofString (t.render report) := by
  have hNone (pieces : List Piece) : Piece.renderAllCodes report.raw none pieces =
      Codes.ofString (Piece.renderAll report none pieces) :=
    Piece.renderAllCodes_raw report none pieces
  have hRow (result : CheckResult) : Piece.renderAllCodes report.raw (some result.raw) t.row =
      Codes.ofString (t.renderRow report result) :=
    Piece.renderAllCodes_raw report (some result) t.row
  have hRows : report.raw.results.flatMap (fun result =>
      Piece.renderAllCodes report.raw (some result) t.row) =
        Codes.ofString (String.join (report.results.map (t.renderRow report))) := by
    rw [Codes.ofString_join, List.flatMap_map, CheckReport.raw, List.flatMap_map]
    exact congrArg (List.flatMap · report.results) (funext hRow)
  rw [renderCodes, render, hNone, hNone, hRows, Codes.ofString_append, Codes.ofString_append]

/-- A report without halves is saved as the report of its texts. -/
theorem RawReport.saveHtml_raw (report : CheckReport) (folder : Option Path) (p : Path)
    (files : Files) : report.raw.saveHtml folder p files = report.saveHtml folder p files := by
  rw [saveHtml, CheckReport.saveHtml]
  cases files.makeFolders p.parent with
  | error e => rfl
  | ok made =>
    dsimp only
    cases made.template folder with
    | error fault => rfl
    | ok t =>
      dsimp only
      rw [Files.saveCodes, Template.renderCodes_raw, written_ofString]

def RawResult.HasHalf (r : RawResult) : Prop :=
  ∃ entry ∈ r.fields, ∃ index, Text.Code.half index ∈ entry.2

theorem RawResult.codesOf_fields (r : RawResult) :
    ∀ entry ∈ r.fields, Slot.codesOf r.fields entry.1 = entry.2 := by
  simp only [fields, List.forall_mem_cons, List.not_mem_nil, false_implies, implies_true, and_true]
  exact ⟨rfl, rfl, rfl, rfl, rfl⟩

/-- The usual page shows every field of a result. -/
theorem Template.field_mem_row (r : RawResult) :
    ∀ entry ∈ r.fields, Piece.slot (.field entry.1) ∈ standard.row := by
  have hNames : ∀ name ∈ ["line", "url", "expression", "status", "detail"],
      Piece.slot (.field name) ∈ standard.row := by decide
  intro entry hEntry
  exact hNames _ (List.mem_map_of_mem hEntry)

theorem Markup.half_mem_escapeCodes {s : Codes} {index : Fin Text.halfCount} (h : .half index ∈ s) :
    .half index ∈ escapeCodes s :=
  List.mem_flatMap.mpr ⟨_, h, List.mem_singleton_self _⟩

theorem Template.exists_half_of_hasHalf {r : RawReport} {result : RawResult}
    (hResult : result ∈ r.results) (hHalf : result.HasHalf) :
    ∃ index, Text.Code.half index ∈ standard.renderCodes r := by
  obtain ⟨entry, hEntry, index, hIndex⟩ := hHalf
  have hFill : (Slot.field entry.1).fillCodes r (some result) = entry.2 :=
    result.codesOf_fields entry hEntry
  have hPiece : .half index ∈ (Piece.slot (.field entry.1)).renderCodes r (some result) := by
    rw [Piece.renderCodes, hFill]
    exact Markup.half_mem_escapeCodes hIndex
  have hRow : .half index ∈ Piece.renderAllCodes r (some result) standard.row :=
    List.mem_flatMap.mpr ⟨_, field_mem_row result entry hEntry, hPiece⟩
  refine ⟨index, ?_⟩
  rw [renderCodes, List.mem_append, List.mem_append]
  exact Or.inl (Or.inr (List.mem_flatMap.mpr ⟨result, hResult, hRow⟩))

namespace RawReport

variable {files : Files} {p : Path} {r : RawReport} {result : RawResult}

/-- A half anywhere in a report leaves its file empty. -/
theorem saveHtml_of_half (hResult : result ∈ r.results) (hHalf : result.HasHalf)
    (hSaved : (r.shown.saveHtml none p files).fault = none) :
    (∃ fault, (r.saveHtml none p files).fault = some (.halves fault)) ∧
      (r.saveHtml none p files).files.bytes p = .ok [] := by
  obtain ⟨made, t, hMade, hTemplate, _⟩ := CheckReport.exists_template_of_saveHtml hSaved
  cases hTemplate
  rw [CheckReport.saveHtml_of_makeFolders hMade rfl, Files.fault_save _ ""] at hSaved
  obtain ⟨index, hIndex⟩ := Template.exists_half_of_hasHalf hResult hHalf
  obtain ⟨fault, hFault⟩ := written_of_half hIndex
  cases hEmpty : made.writeText p "" with
  | error e =>
    rw [Files.save, hEmpty] at hSaved
    cases hSaved
  | ok more =>
    have hSave : r.saveHtml none p files = ⟨more, some (.halves fault)⟩ := by
      have hCodes : made.saveCodes p (Template.standard.renderCodes r) = ⟨more, some (.halves fault)⟩ := by
        rw [Files.saveCodes, hFault]
        dsimp only
        rw [hEmpty]
      rw [saveHtml, hMade]
      exact hCodes
    rw [hSave]
    refine ⟨⟨fault, rfl⟩, ?_⟩
    rw [Files.writeText, Files.mapError_eq_ok_iff] at hEmpty
    exact Files.bytes_of_create hEmpty

end RawReport

end PageCheck
