import JavaReview.Review
import JavaReview.Text.Decimal
import JavaReview.Text.Html

/-!
The report of a review as a page of its own.
-/

namespace JavaReview.Report

open Html (escape)

/-- The start of a page, up to its body. -/
def htmlHead : String :=
  "<!doctype html><html><head><meta charset='utf-8'><title>Code Review Report</title>" ++
  "<style>body\x7bfont-family:system-ui,Arial,sans-serif;padding:20px;line-height:1.4\x7d " ++
  ".issue\x7bmargin:12px 0;padding:10px;border:1px solid #ddd;border-radius:6px\x7d " ++
  ".meta\x7bcolor:#555\x7d .mono\x7bfont-family:ui-monospace,Menlo,Consolas,monospace\x7d " ++
  ".ERROR\x7bborder-left:4px solid #c62828\x7d .SECURITY\x7bborder-left:4px solid #6a1b9a\x7d " ++
  ".WARNING\x7bborder-left:4px solid #f9a825\x7d " ++
  ".OPTIMIZATION\x7bborder-left:4px solid #1565c0\x7d</style>" ++
  "</head><body>"

/-- The file, the id and the counts of a review. -/
def htmlSummary (r : Review) : String :=
  "<h1>Code Review Report</h1>" ++
  "<p class='meta'><b>File:</b> <span class='mono'>" ++ escape r.filename ++
    "</span> | <b>Review ID:</b> " ++ decimal r.id ++ "</p>" ++
  "<ul>" ++
  "<li>Errors: " ++ decimal r.counts.errors ++ "</li>" ++
  "<li>Warnings: " ++ decimal r.counts.warnings ++ "</li>" ++
  "<li>Optimizations: " ++ decimal r.counts.optimizations ++ "</li>" ++
  "<li>Security: " ++ decimal r.counts.security ++ "</li>" ++
  "</ul>" ++
  "<p class='meta'>Total issues: " ++ decimal r.counts.total ++ "</p>"

/-- The rule of a finding, if it has one. -/
def htmlRule (rule : String) : String :=
  if rule = "" then "" else " &nbsp; Rule: <span class='mono'>" ++ escape rule ++ "</span>"

/-- One finding. -/
def htmlFinding (f : Finding) : String :=
  "<div class='issue " ++ escape f.category.name ++ "'>" ++
  "<h3>[" ++ escape f.category.name ++ "] (Line " ++ decimal f.line ++ ") " ++ escape f.title ++
    "</h3>" ++
  "<p>" ++ escape f.description ++ "</p>" ++
  "<p><b>Suggestion:</b> " ++ escape f.suggestion ++ "</p>" ++
  "<p class='meta'>Severity: " ++ escape f.severity.name ++ htmlRule f.rule ++ "</p></div>"

/-- The findings, in order. -/
def htmlFindings (fs : List Finding) : String :=
  "<h2>Issues</h2>" ++
  (if fs.isEmpty then "<p class='meta'>No issues found.</p>" else "") ++
  String.join (fs.map htmlFinding)

/-- The page of a review. -/
def renderHtml (r : Review) : String :=
  htmlHead ++ htmlSummary r ++ htmlFindings r.findings ++ "</body></html>"

end JavaReview.Report
