import JavaReview.Store.Basic

/-!
Stored reviews. A review is stored with its findings in one step; the counts are those of the
findings, whatever the review said.
-/

namespace JavaReview.Store

/-- A review as it is stored: with a time, a name, a version and the counts of its findings. -/
def completed (now : Instant) (r : Review) : Review :=
  { r with
    createdAt := if r.createdAt.isZero then .utc now else r.createdAt
    filename := Review.filenameOr r.filename
    version := if r.version = "" then Review.formatVersion else r.version
    counts := .tally r.findings }

/-- Findings with ids that count up from the first. -/
def withIds (first : Int) : List Finding → List Finding
  | [] => []
  | f :: fs => { f with id := first } :: withIds (first + 1) fs

/-- The rows of findings of a review, from a place on. -/
def findingRows (review : Int) (place : Nat) : List Finding → List FindingRow
  | [] => []
  | f :: fs => { id := f.id, review, place, finding := f } :: findingRows review (place + 1) fs

/-- Stores a review. The answer is the review with its ids and with what was completed. -/
def save (s : Store) (now : Instant) (r : Review) : Except StoreError (Store × Review) :=
  let r := completed now r
  let id := nextId s.reviews
  let issues := r.issues.map (withIds (nextId s.findings))
  let row : ReviewRow :=
    { id
      filename := r.filename
      source := r.source
      createdAt := .ofInstant r.createdAt.instant
      version := r.version
      counts := r.counts }
  s.whenOpen <|
    if !s.isWritable then .error (if s.locksFirst then .readOnly else .reviewNotInserted .readOnly)
    else .ok
      ({ s with
          reviews := s.reviews ++ [row]
          findings := s.findings ++ findingRows id 0 (issues.getD []) },
        { r with id, issues })

/-- The findings of a review, in their order there. -/
def findingsOf (s : Store) (id : Int) : List Finding :=
  (s.findings.filter (·.review == id)).map fun row => { row.finding with id := row.id }

/-- The findings of a review; a review without findings has no list, and neither has an id without a
review. -/
def listFindings (s : Store) (id : Int) : Except StoreError (Option (List Finding)) :=
  s.whenOpen <| .ok <|
    match s.findingsOf id with
    | [] => none
    | fs => some fs

/-- The row of a review. -/
def reviewRow? (s : Store) (id : Int) : Option ReviewRow := s.reviews.find? (·.id == id)

/-- The stored review of an id. -/
def load (s : Store) (id : Int) : Except StoreError Review :=
  s.whenOpen <|
    match s.reviewRow? id with
    | none => .error (.noReview id)
    | some row => do
      return { id := row.id
               filename := row.filename
               source := row.source
               createdAt := row.createdAt.load
               version := row.version
               counts := row.counts
               issues := ← s.listFindings id }

/-- Whether there is a review of an id. -/
def has (s : Store) (id : Int) : Except StoreError Bool := s.whenOpen (.ok (s.reviewRow? id).isSome)

/-- What a list of reviews shows of one. -/
structure ReviewEntry where
  id : Int
  filename : String
  createdAt : Timestamp
  counts : Counts

/-- What a list shows of a stored review. -/
def entryOf (row : ReviewRow) : ReviewEntry :=
  { id := row.id, filename := row.filename, createdAt := row.createdAt.load, counts := row.counts }

/-- A page of the reviews, newest first. A limit that is not positive is none. -/
def list (s : Store) (limit offset : Int) : Except StoreError (List ReviewEntry) :=
  let rows := s.reviews.reverse.drop offset.toNat
  s.whenOpen (.ok ((if limit ≤ 0 then rows else rows.take limit.toNat).map entryOf))

/-- The number of reviews and the sums of their counts. -/
structure Summary where
  reviews : Nat
  counts : Counts

/-- Sums up all reviews. -/
def summary (s : Store) : Except StoreError Summary :=
  s.whenOpen (.ok
    { reviews := s.reviews.length, counts := (s.reviews.map (·.counts)).foldr (· + ·) {} })

end JavaReview.Store
