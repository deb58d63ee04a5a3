import JavaReview.Time.Calendar

/-!
Instants and timestamps. An instant is a point in time to the nanosecond; a timestamp is an instant
together with the offset from UTC in which it is written.
-/

namespace JavaReview

/-- A point in time: whole seconds since 1970-01-01T00:00:00Z and nanoseconds after them. -/
structure Instant where
  seconds : Int
  nanos : Fin 1000000000
deriving DecidableEq, Repr

namespace Instant

/-- The start of the year 1, which stands for a time that was never set. -/
def zero : Instant := ⟨-62135596800, 0⟩

/-- The instant a number of nanoseconds after a second. -/
def ofParts (s : Int) (nanos : Nat) : Instant := ⟨s, Fin.ofNat 1000000000 nanos⟩

/-- The instant a number of seconds later. -/
def addSeconds (t : Instant) (s : Int) : Instant := { t with seconds := t.seconds + s }

/-- Chronological order. -/
def before (a b : Instant) : Prop :=
  a.seconds < b.seconds ∨ (a.seconds = b.seconds ∧ a.nanos < b.nanos)

instance (a b : Instant) : Decidable (a.before b) := by
  unfold before; infer_instance

end Instant

/-- An instant as written with an offset from UTC, in seconds. -/
structure Timestamp where
  instant : Instant
  offset : Int
deriving DecidableEq, Repr

namespace Timestamp

/-- An instant as written in UTC. -/
def utc (t : Instant) : Timestamp := ⟨t, 0⟩

/-- The time that was never set. -/
def zero : Timestamp := utc .zero

/-- Whether the time was never set. -/
def isZero (t : Timestamp) : Bool := t.instant = .zero

/-- The same instant written in UTC. -/
def toUtc (t : Timestamp) : Timestamp := utc t.instant

/-- Seconds since 1970-01-01T00:00:00 on a clock at the timestamp's offset. -/
def localSeconds (t : Timestamp) : Int := t.instant.seconds + t.offset

/-- The date on a calendar at the timestamp's offset. -/
def date (t : Timestamp) : Time.Date := .ofDays (t.localSeconds / 86400)

/-- The second of the day on a clock at the timestamp's offset. -/
def secondOfDay (t : Timestamp) : Nat := (t.localSeconds % 86400).toNat

end Timestamp

end JavaReview
