import Mathlib.Data.List.Forall2
import PageCheck.Proofs.Html.Tags
import PageCheck.Proofs.Json.Number
import PageCheck.Proofs.Report.Page
import PageCheck.Proofs.Report.Raw
import PageCheck.Proofs.Report.Save

/-!
# Pages of reports as markup

The page of a report is the text of a list of tags with texts between them. Reading it finds these
tags, which are the same for all reports with as many results, and the list determines the report.
-/

namespace PageCheck.Template

set_option autoImplicit false

open Html.Token (Reads styleName tagNames tagNameOf opensRaw)
open Markup (Mark Name Part escapeChars written)

def starts (before name : String) (h : Markup.isName name.toList = true := by decide) : Part :=
  ⟨before.toList, .start (.of name h) []⟩

def finishes (before name : String) (h : Markup.isName name.toList = true := by decide) : Part :=
  ⟨before.toList, .finish (.of name h)⟩

def gap : List Char := "\n    ".toList

/-- The parts of the gap before a row and of the row up to its last tag. -/
def rowParts (result : CheckResult) : List Part :=
  [⟨"\n    \n      ".toList, .start (.of "tr") [(.of "class", result.status.name.toList)]⟩,
    starts "\n        " "td", finishes (toString result.line) "td",
    starts "\n        " "td", ⟨[], .start (.of "a") [(.of "href", result.url.toList)]⟩,
    finishes result.url "a", finishes "" "td",
    starts "\n        " "td", starts "" "code", finishes result.expression "code", finishes "" "td",
    starts "\n        " "td", finishes result.status.name "td",
    starts "\n        " "td", finishes result.detail "td", finishes "\n      " "tr"]

theorem gap_append_rowOf (result : CheckResult) :
    gap ++ rowOf result = written (rowParts result) ++ gap := by
  simp only [rowParts, Markup.written_cons, starts, finishes, Part.chars, Mark.chars, Markup.attributeChars,
    Name.of, List.flatMap_cons, List.flatMap_nil, List.append_assoc, List.append_nil, List.cons_append, List.nil_append]
  rfl

def headParts : List Part :=
  [⟨"\n".toList, .start (.of "html") [(.of "lang", "en".toList)]⟩, starts "\n" "head",
    ⟨"\n  ".toList, .start (.of "meta") [(.of "charset", "utf-8".toList)]⟩,
    starts "\n  " "title", finishes "SiteCheck report" "title"]

/-- The content of the style element. -/
def style : List Char := '\n' :: joinedChars ((head.drop 6).take 7) ++ "\n  ".toList

def countsText (summary : List (String × Nat)) : List Char :=
  "\n    ".toList ++ ((countOf summary "total").toList ++ (" checks:\n    ".toList ++
    ((countOf summary "matched").toList ++ (" matched,\n    ".toList ++
    ((countOf summary "not_matched").toList ++ (" not matched,\n    ".toList ++
    ((countOf summary "invalid").toList ++ (" invalid,\n    ".toList ++
    ((countOf summary "error").toList ++ " errors.\n  ".toList)))))))))

def headingParts : List Part := [finishes "\n" "head", starts "\n" "body", starts "\n  " "h1"]

def tableParts : List Part :=
  [starts "\n  " "table", starts "\n    " "thead", starts "\n      " "tr",
    starts "" "th", finishes "Line" "th", starts "" "th", finishes "URL" "th",
    starts "" "th", finishes "Predicate" "th", starts "" "th", finishes "Status" "th",
    starts "" "th", finishes "Detail" "th", finishes "" "tr", finishes "\n    " "thead",
    starts "\n    " "tbody"]

def openingParts (ok : Bool) (summary : List (String × Nat)) : List Part :=
  headingParts ++
    [⟨"SiteCheck report: ".toList ++ (verdict ok).toList, .finish (.of "h1")⟩,
      starts "\n  " "p", ⟨countsText summary, .finish (.of "p")⟩] ++
    tableParts

def closingParts : List Part :=
  [finishes "\n    \n    " "tbody", finishes "\n  " "table", finishes "\n" "body",
    finishes "\n" "html"]

theorem gap_append_closing : gap ++ closing = written closingParts := by
  simp only [closingParts, Markup.written_cons, finishes, Part.chars, Mark.chars,
    Name.of, List.append_assoc, List.cons_append, List.nil_append]
  rfl

def stylePart : Part := ⟨"\n  ".toList, .start styleName []⟩

/-- The page up to the end of its style element, which is the same for all reports. -/
def preamble : List Char :=
  List.flatten
    ["<!DOCTYPE html>".toList, written headParts, stylePart.chars, style,
      (Mark.finish styleName).chars]

theorem joinedChars_head :
    joinedChars head = preamble ++ (written headingParts ++ "SiteCheck report: ".toList) := by
  decide +kernel

theorem joinedChars_tableHead : joinedChars tableHead =
    " errors.\n  ".toList ++ ("</p>".toList ++ (written tableParts ++ gap)) := by decide +kernel

theorem opening_eq (ok : Bool) (summary : List (String × Nat)) :
    opening ok summary = preamble ++ (written (openingParts ok summary) ++ gap) := by
  rw [opening, joinedChars_head, joinedChars_tableHead]
  simp only [openingParts, countsText, Markup.written_append, Markup.written_cons, starts, Part.chars,
    Mark.chars, Name.of, Markup.escapeChars_append, List.flatMap_nil, List.flatten_cons,
    List.append_assoc, List.cons_append, List.nil_append]
  rfl

theorem gap_append_rows (results : List CheckResult) :
    gap ++ results.flatMap rowOf = written (results.flatMap rowParts) ++ gap := by
  induction results with
  | nil => rfl
  | cons result results ih =>
    rw [List.flatMap_cons, List.flatMap_cons, Markup.written_append, ← List.append_assoc,
      gap_append_rowOf, List.append_assoc, ih, List.append_assoc]

def pageParts (r : CheckReport) : List Part :=
  openingParts r.isOk r.summary ++ (r.results.flatMap rowParts ++ closingParts)

theorem toList_render_eq_written (r : CheckReport) :
    (standard.render r).toList = preamble ++ written (pageParts r) := by
  rw [toList_render, opening_eq, pageParts, Markup.written_append, Markup.written_append,
    ← gap_append_closing]
  calc preamble ++ (written (openingParts r.isOk r.summary) ++ gap) ++ r.results.flatMap rowOf ++ closing
    _ = preamble ++ (written (openingParts r.isOk r.summary) ++
        (gap ++ r.results.flatMap rowOf ++ closing)) := by simp only [List.append_assoc]
    _ = _ := by rw [gap_append_rows, List.append_assoc]

/-! Tags -/

def openingTags : List (List Char) :=
  ["html", "head", "meta", "title", "/title", "style", "/style", "/head", "body", "h1", "/h1", "p",
    "/p", "table", "thead", "tr", "th", "/th", "th", "/th", "th", "/th", "th", "/th", "th", "/th",
    "/tr", "/thead", "tbody"].map String.toList

def rowTags : List (List Char) :=
  ["tr", "td", "/td", "td", "a", "/a", "/td", "td", "code", "/code", "/td", "td", "/td", "td", "/td",
    "/tr"].map String.toList

def closingTags : List (List Char) := ["/tbody", "/table", "/body", "/html"].map String.toList

def tagsOf (parts : List Part) : List (List Char) := parts.map fun part => tagNameOf part.mark

theorem tagsOf_rows (results : List CheckResult) :
    tagsOf (results.flatMap rowParts) = (List.replicate results.length rowTags).flatten := by
  induction results with
  | nil => rfl
  | cons result results ih =>
    rw [List.flatMap_cons, tagsOf, List.map_append, List.length_cons, List.replicate_succ,
      List.flatten_cons, ← ih]
    rfl

theorem opensRaw_pageParts (r : CheckReport) : ∀ part ∈ pageParts r, opensRaw part.mark = false := by
  have hOpening : (openingParts r.isOk r.summary).all (fun part => !opensRaw part.mark) = true := rfl
  have hRow (result : CheckResult) : (rowParts result).all (fun part => !opensRaw part.mark) = true := rfl
  have hClosing : closingParts.all (fun part => !opensRaw part.mark) = true := rfl
  intro part hMem
  rw [← Bool.not_eq_true']
  rcases List.mem_append.mp hMem with hMem | hMem
  · exact List.all_eq_true.mp hOpening part hMem
  rcases List.mem_append.mp hMem with hMem | hMem
  · obtain ⟨result, _, hMem⟩ := List.mem_flatMap.mp hMem
    exact List.all_eq_true.mp (hRow result) part hMem
  · exact List.all_eq_true.mp hClosing part hMem

theorem reads_preamble (rest : List Char) :
    Reads none (preamble ++ rest) (tagsOf headParts ++ [styleName.chars, '/' :: styleName.chars])
      none rest := by
  have hText : preamble ++ rest = "<!DOCTYPE html>".toList ++ (written headParts ++
      (stylePart.chars ++ (style ++ ((Mark.finish styleName).chars ++ rest)))) := by
    change List.flatten [_, _, _, _, _] ++ rest = _
    simp only [List.flatten_cons, List.flatten_nil, List.append_assoc, List.nil_append]
  have hDoctype (s : List Char) : Reads none ("<!DOCTYPE html>".toList ++ s) [] none s := by
    have hStep : Html.Token.step false none ("<!DOCTYPE html>".toList ++ s) =
        .ok (.go [.note .doctype "DOCTYPE html".toList] none s) := rfl
    exact Html.Token.reads_of_step (by simp) hStep
  have hHead : ∀ part ∈ headParts, opensRaw part.mark = false := by
    have hAll : headParts.all (fun part => !opensRaw part.mark) = true := rfl
    simpa using hAll
  have hStyle : '<' ∉ style := by decide +kernel
  rw [hText]
  exact (hDoctype _).trans ((Html.Token.reads_written hHead).trans
    ((Html.Token.reads_before stylePart _).trans (Html.Token.reads_style hStyle)))

theorem tagsOf_append (a b : List Part) : tagsOf (a ++ b) = tagsOf a ++ tagsOf b := List.map_append

/-- The tags of a page are those of the template, with the tags of the row once for every result. -/
theorem exists_tokens_of_page (r : CheckReport) : ∃ tokens,
    Html.Token.ofText (standard.render r).toList = .ok tokens ∧
      tagNames tokens = openingTags ++ (List.replicate r.results.length rowTags).flatten ++ closingTags := by
  have hTags : tagsOf headParts ++ [styleName.chars, '/' :: styleName.chars] ++ tagsOf (pageParts r) =
      openingTags ++ (List.replicate r.results.length rowTags).flatten ++ closingTags := by
    rw [pageParts, tagsOf_append, tagsOf_append, tagsOf_rows]
    simp only [← List.append_assoc]
    rfl
  apply Html.Token.exists_tokens_of_reads
  have hParts : Html.Token.Reads none (Markup.written (pageParts r) ++ []) (tagsOf (pageParts r)) none [] :=
    Html.Token.reads_written (opensRaw_pageParts r)
  rw [List.append_nil] at hParts
  rw [toList_render_eq_written, ← hTags]
  exact (reads_preamble _).trans hParts

/-! Different reports -/

theorem rowParts_injective {a b : CheckResult} (h : rowParts a = rowParts b) : a = b := by
  simp only [rowParts, starts, finishes, List.cons.injEq, Markup.Part.mk.injEq,
    Markup.Mark.start.injEq, Prod.mk.injEq, true_and, and_true, String.toList_inj] at h
  obtain ⟨hStatus, hLine, hUrl, _, hExpression, _, hDetail⟩ := h
  have hLine := Json.toString_int_injective hLine
  have hStatus := CheckStatus.name_injective hStatus
  cases a
  cases b
  simp_all

theorem rowParts_ne_closingParts (result : CheckResult) (rest : List Part) :
    rowParts result ++ rest ≠ closingParts := by
  intro hSame
  have hFirst := congrArg (List.map fun part => tagNameOf part.mark) hSame
  cases (List.cons.inj hFirst).1

theorem rows_injective {a b : List CheckResult}
    (h : a.flatMap rowParts ++ closingParts = b.flatMap rowParts ++ closingParts) : a = b := by
  induction a generalizing b with
  | nil =>
    cases b with
    | nil => rfl
    | cons y b =>
      rw [List.flatMap_cons, List.append_assoc] at h
      exact absurd h.symm (rowParts_ne_closingParts y _)
  | cons x a ih =>
    cases b with
    | nil =>
      rw [List.flatMap_cons, List.append_assoc] at h
      exact absurd h (rowParts_ne_closingParts x _)
    | cons y b =>
      rw [List.flatMap_cons, List.flatMap_cons, List.append_assoc, List.append_assoc] at h
      obtain ⟨hRow, hRest⟩ := List.append_inj h rfl
      rw [rowParts_injective hRow, ih hRest]

/-- Different reports have different pages. -/
theorem render_injective : Function.Injective standard.render := by
  intro r other h
  have hParts := congrArg String.toList h
  rw [toList_render_eq_written, toList_render_eq_written] at hParts
  have hSame := Markup.written_injective (List.append_cancel_left hParts)
  have hResults := rows_injective (List.append_inj hSame rfl).2
  cases r
  cases other
  cases hResults
  rfl

/-- What the page of a report is: fixed text with a row for every result, read as fixed tags. -/
structure IsPage (page : String) (r : CheckReport) : Prop where
  blocks : ∃ rows, page.toList = opening r.isOk r.summary ++ rows.flatten ++ closing ∧
    List.Forall₂ IsRow rows r.results
  tags : ∃ tokens, Html.Token.ofText page.toList = .ok tokens ∧ tagNames tokens =
    openingTags ++ (List.replicate r.results.length rowTags).flatten ++ closingTags

theorem isPage_render (r : CheckReport) : IsPage (standard.render r) r where
  blocks := by
    refine ⟨r.results.map rowOf, ?_, ?_⟩
    · rw [toList_render, List.flatMap_def]
    · rw [List.forall₂_map_left_iff]
      exact List.forall₂_same.mpr fun result _ => isRow_rowOf result
  tags := exists_tokens_of_page r

end PageCheck.Template

namespace PageCheck.CheckReport

set_option autoImplicit false

open Template (IsPage)

/-- The file of a saved report holds its page, and the file of no other report is the same. -/
theorem saved_page {r : CheckReport} {files : Files} {p : Path}
    (h : (r.saveHtml none p files).fault = none) :
    (∃ page : String, (r.saveHtml none p files).files.bytes p = .ok page.toUTF8.data.toList ∧
      IsPage page r) ∧
    ∀ other : CheckReport, (other.saveHtml none p files).fault = none ∧
      ((other.saveHtml none p files).files.bytes p = (r.saveHtml none p files).files.bytes p →
        other = r) := by
  have hBytes (report : CheckReport) (hSaved : (report.saveHtml none p files).fault = none) :
      (report.saveHtml none p files).files.bytes p =
        .ok (Template.standard.render report).toUTF8.data.toList := by
    obtain ⟨made, t, _, hTemplate, hBytes⟩ := exists_template_of_saveHtml hSaved
    cases hTemplate
    exact hBytes
  refine ⟨⟨Template.standard.render r, hBytes r h, Template.isPage_render r⟩, fun other => ?_⟩
  have hOther : (other.saveHtml none p files).fault = none := fault_saveHtml other r ▸ h
  refine ⟨hOther, fun hSame => ?_⟩
  rw [hBytes other hOther, hBytes r h] at hSame
  exact Template.render_injective (Text.toUTF8_toList_injective (Except.ok.inj hSame))

theorem saved_page_marks :
    let r : CheckReport := ⟨[⟨1, "\"><script>", "</code>", .error, "&lt; & '"⟩]⟩
    let files : Files := ⟨⟨"/", ["d"]⟩, ⟨⟨"/", ["d"]⟩, []⟩, []⟩
    let p : Path := ⟨"", ["r.html"]⟩
    (r.saveHtml none p files).fault = none ∧
      ∃ page : String, (r.saveHtml none p files).files.bytes p = .ok page.toUTF8.data.toList ∧
        IsPage page r := by
  intro r files p
  have hMade : files.makeFolders p.parent = .ok files := by
    rw [Files.makeFolders, Files.makeFoldersAt]
    rfl
  have hSaved : (r.saveHtml none p files).fault = none := by
    rw [saveHtml_of_makeFolders hMade rfl, Files.fault_save _ ""]
    rfl
  exact ⟨hSaved, (saved_page hSaved).1⟩

/-- Two reports with a half of a character in a text of their only result: neither has a page, and
their files are the same. -/
theorem saved_nothing_of_half :
    let r : RawReport := ⟨[⟨1, .ofString "u", [], .error, [.half ⟨0, by decide⟩]⟩]⟩
    let other : RawReport := ⟨[⟨1, .ofString "u", [], .error, [.half ⟨1, by decide⟩]⟩]⟩
    let files : Files := ⟨⟨"/", ["d"]⟩, ⟨⟨"/", ["d"]⟩, []⟩, []⟩
    let p : Path := ⟨"", ["r.html"]⟩
    r ≠ other ∧ (r.saveHtml none p files).files.bytes p = .ok [] ∧
      (other.saveHtml none p files).files.bytes p = (r.saveHtml none p files).files.bytes p := by
  intro r other files p
  have hMade : files.makeFolders p.parent = .ok files := by
    rw [Files.makeFolders, Files.makeFoldersAt]
    rfl
  have hSaved (report : CheckReport) : (report.saveHtml none p files).fault = none := by
    rw [saveHtml_of_makeFolders hMade rfl, Files.fault_save _ ""]
    rfl
  have hEmpty {report : RawReport} {index : Fin Text.halfCount}
      (hOnly : report.results = [⟨1, .ofString "u", [], .error, [.half index]⟩]) :
      (report.saveHtml none p files).files.bytes p = .ok [] := by
    have hHalf : (⟨1, .ofString "u", [], .error, [.half index]⟩ : RawResult).HasHalf :=
      ⟨("detail", [.half index]), by simp [RawResult.fields], index, List.mem_cons_self⟩
    exact (RawReport.saveHtml_of_half (hOnly ▸ List.mem_cons_self) hHalf (hSaved _)).2
  exact ⟨by decide, hEmpty rfl, (hEmpty rfl).trans (hEmpty rfl).symm⟩

end PageCheck.CheckReport
