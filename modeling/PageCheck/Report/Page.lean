import PageCheck.Report.Template

/-!
# The page of a report

The template that is used unless another one is given: a heading with the verdict, the counts, and
a table with a row for every result.
-/

namespace PageCheck.Template

def head : List String :=
  ["<!DOCTYPE html>",
    "<html lang=\"en\">",
    "<head>",
    "  <meta charset=\"utf-8\">",
    "  <title>SiteCheck report</title>",
    "  <style>",
    "    body \x7b font-family: sans-serif; margin: 2em; \x7d",
    "    table \x7b border-collapse: collapse; width: 100%; \x7d",
    "    th, td \x7b border: 1px solid #ccc; padding: .4em .6em; text-align: left; " ++
      "vertical-align: top; \x7d",
    "    .matched \x7b background: #e6f4ea; \x7d",
    "    .not_matched \x7b background: #fdecea; \x7d",
    "    .invalid, .error \x7b background: #fff4e5; \x7d",
    "    code \x7b white-space: pre-wrap; \x7d",
    "  </style>",
    "</head>",
    "<body>",
    "  <h1>SiteCheck report: "]

def tableHead : List String :=
  [" errors.",
    "  </p>",
    "  <table>",
    "    <thead>",
    "      <tr><th>Line</th><th>URL</th><th>Predicate</th><th>Status</th><th>Detail</th></tr>",
    "    </thead>",
    "    <tbody>",
    "    "]

def foot : List String :=
  ["", "    </tbody>", "  </table>", "</body>", "</html>"]

def joined (lines : List String) : Piece := .text ("\n".intercalate lines)

def standard : Template where
  before :=
    [joined head, .slot (.verdict "OK" "FAILED"), .text "</h1>\n  <p>\n    ",
      .slot (.count "total"), .text " checks:\n    ",
      .slot (.count "matched"), .text " matched,\n    ",
      .slot (.count "not_matched"), .text " not matched,\n    ",
      .slot (.count "invalid"), .text " invalid,\n    ",
      .slot (.count "error"), joined tableHead]
  row :=
    [.text "\n      <tr class=\"", .slot (.field "status"), .text "\">\n        <td>",
      .slot (.field "line"), .text "</td>\n        <td><a href=\"",
      .slot (.field "url"), .text "\">",
      .slot (.field "url"), .text "</a></td>\n        <td><code>",
      .slot (.field "expression"), .text "</code></td>\n        <td>",
      .slot (.field "status"), .text "</td>\n        <td>",
      .slot (.field "detail"), .text "</td>\n      </tr>\n    "]
  after := [joined foot]

end PageCheck.Template
