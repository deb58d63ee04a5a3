import JavaReview.Review
import JavaReview.Text.Decimal

/-!
The report of a review as plain text.
-/

namespace JavaReview.Report

/-- One finding. -/
def textFinding (f : Finding) : String :=
  "[" ++ f.category.name ++ "] (Line " ++ decimal f.line ++ ") " ++ f.title ++ "\n" ++
  "  " ++ f.description ++ "\n" ++
  "  Suggestion: " ++ f.suggestion ++ "\n" ++
  "  Severity: " ++ f.severity.name ++ "\n\n"

/-- The report of a review. -/
def renderText (r : Review) : String :=
  "Code Review Report\n" ++
  "File: " ++ r.filename ++ " | Review ID: " ++ decimal r.id ++ "\n" ++
  "Errors: " ++ decimal r.counts.errors ++ ", Warnings: " ++ decimal r.counts.warnings ++
    ", Optimizations: " ++ decimal r.counts.optimizations ++ ", Security: " ++
    decimal r.counts.security ++ "\n\n" ++
  String.join (r.findings.map textFinding)

end JavaReview.Report
