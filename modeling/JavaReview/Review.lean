import JavaReview.Counts
import JavaReview.Time.Instant

/-!
Reviews: the outcome of one analysis, with the text it was made of. A review may have no list of
findings at all, which is written differently from an empty list.
-/

namespace JavaReview

/-- The outcome of an analysis. Id 0 stands for a review that is not stored. -/
structure Review where
  id : Int := 0
  filename : String := ""
  source : String := ""
  createdAt : Timestamp := .zero
  version : String := ""
  counts : Counts := {}
  issues : Option (List Finding) := none
deriving DecidableEq, Repr

namespace Review

/-- The version of the review format. -/
def formatVersion : String := "1.0"

/-- The name of a text that was handed in without one. -/
def defaultFilename : String := "inline.java"

/-- The given name, or the one for texts without a name. -/
def filenameOr (name : String) : String := if name = "" then defaultFilename else name

/-- The findings of a review, none if it has no list. -/
def findings (r : Review) : List Finding := r.issues.getD []

/-- The review with other findings, counted anew. -/
def withIssues (r : Review) (issues : Option (List Finding)) : Review :=
  { r with issues, counts := .tally (issues.getD []) }

end Review

end JavaReview
