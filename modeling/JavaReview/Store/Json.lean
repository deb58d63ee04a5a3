import JavaReview.Review.Json
import JavaReview.Store.Reviews
import JavaReview.Store.Waivers

/-!
What the store answers, as JSON.
-/

namespace JavaReview

/-- A waiver as an object; the limits of a waiver are left out if it has none. -/
def Waiver.toJson (w : Waiver) : Json :=
  .obj ([("id", .int w.id), ("rule", .str w.rule)] ++
    Json.fieldIf (w.filename ≠ "") "filename" (.str w.filename) ++
    Json.fieldIf (w.pattern ≠ "") "pattern" (.str w.pattern) ++
    [("reason", .str w.reason), ("expires_at", .str w.expiresAt.text),
      ("created_by", .str w.createdBy), ("created_at", .str w.createdAt.text)] ++
    match w.revokedAt with
    | none => []
    | some t => [("revoked_at", .str t.text)])

/-- An entry of a list of reviews as an object. -/
def Store.ReviewEntry.toJson (e : Store.ReviewEntry) : Json :=
  .obj [("review_id", .int e.id), ("filename", .str e.filename),
    ("created_at", .str e.createdAt.text), ("counts", e.counts.toJson)]

/-- A summary as an object. -/
def Store.Summary.toJson (s : Store.Summary) : Json :=
  .obj [("total_reviews", .int s.reviews), ("counts", s.counts.toJson)]

end JavaReview
