import JavaReview.Time.Rfc3339

/-!
Times as they are stored: the text of the instant in UTC. Stored times are compared as texts.
-/

namespace JavaReview

/-- A time as it is stored. -/
structure StoredTime where
  text : String
deriving DecidableEq, Repr

namespace StoredTime

/-- The stored form of an instant. -/
def ofInstant (t : Instant) : StoredTime := ⟨(Timestamp.utc t).text⟩

/-- The time that was stored, or the time that was never set if the text cannot be read back. -/
def load (s : StoredTime) : Timestamp := (Timestamp.ofText? s.text).getD .zero

/-- Whether the text of a stored time comes after the text of the present. -/
def isAfter (s : StoredTime) (now : Instant) : Bool := decide ((ofInstant now).text < s.text)

end StoredTime

end JavaReview
