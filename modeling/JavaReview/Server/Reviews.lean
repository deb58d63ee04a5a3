import JavaReview.Report
import JavaReview.Server.Basic

/-!
Stored reviews on request. None of these handlers changes the server.
-/

namespace JavaReview.Server

open Http (Query)

/-- A number in a query, or another one if it is missing or no number. -/
def queryNumber (q : Query) (key : String) (default : Int) : Int :=
  (readDecimal? (q.get key).toList).getD default

/-- The size of a page. -/
def pageLimit (q : Query) : Int := min (max (queryNumber q "limit" 50) 1) 500

/-- The start of a page. -/
def pageOffset (q : Query) : Int := max (queryNumber q "offset" 0) 0

/-- Lists a page of the reviews. -/
def listReviews : Handler := fun _ req s =>
  let limit := pageLimit req.target.query
  let offset := pageOffset req.target.query
  (stored (s.store.list limit offset) fun es =>
    reply (.obj [("items", .arr (es.map (·.toJson))), ("limit", .int limit), ("offset", .int offset)]), s)

/-- The review of an id in a path. -/
def loadReview (s : Server) (id : String) : Except Refusal Review :=
  match readId? id with
  | none => .error .invalidId
  | some n => (s.store.load n).mapError fun e => if e.isNotFound then .noReview else .storeFailed e

/-- Shows a review. -/
def showReview (id : String) : Handler := fun _ _ s =>
  ((s.loadReview id).bind fun r => reply r.toJson, s)

/-- A review as a file to keep, as text if the query asks for it. -/
def exportReview (id : String) : Handler := fun _ req s =>
  let asText := Text.equalFold (req.target.query.get "format").toList "txt".toList
  let format : Report.Format := if asText then .text else .html
  ((s.loadReview id).map fun r =>
    { status := 200
      headers := [
        ("Content-Type", if asText then "text/plain; charset=utf-8" else "text/html; charset=utf-8"),
        ("Content-Disposition",
          "attachment; filename=\"review-" ++ decimal r.id ++ format.extension ++ "\"")]
      body := Report.render format r }, s)

/-- Sums up the reviews. -/
def showSummary : Handler := fun _ _ s => (stored s.store.summary fun t => reply t.toJson, s)

end JavaReview.Server
