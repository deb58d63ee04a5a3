import JavaReview.Json.Write
import JavaReview.Review
import JavaReview.Time.Rfc3339

/-!
Findings, counts and reviews as JSON. Fields that say nothing are left out: an id of 0, an empty
source text, an empty version.
-/

namespace JavaReview

/-- A finding as an object. -/
def Finding.toJson (f : Finding) : Json :=
  .obj (Json.fieldIf (f.id ≠ 0) "id" (.int f.id) ++
    [("rule", .str f.rule),
      ("line_number", .int f.line),
      ("title", .str f.title),
      ("description", .str f.description),
      ("suggestion", .str f.suggestion),
      ("category", .str f.category.name),
      ("severity", .str f.severity.name)])

/-- Counts as an object, with their sum. -/
def Counts.toJson (c : Counts) : Json :=
  .obj [("error_count", .int c.errors),
    ("warning_count", .int c.warnings),
    ("optimization_count", .int c.optimizations),
    ("security_count", .int c.security),
    ("total_issues", .int c.total)]

/-- A review as an object. -/
def Review.toJson (r : Review) : Json :=
  .obj (Json.fieldIf (r.id ≠ 0) "review_id" (.int r.id) ++
    [("filename", .str r.filename)] ++
    Json.fieldIf (r.source ≠ "") "code" (.str r.source) ++
    [("created_at", .str r.createdAt.text)] ++
    Json.fieldIf (r.version ≠ "") "ir_version" (.str r.version) ++
    [("counts", r.counts.toJson),
      ("issues", Json.ofList? Finding.toJson r.issues)])

end JavaReview
