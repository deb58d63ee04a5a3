import JavaReview.Store.Basic

/-!
Stored waivers. A waiver is active until it expires or is revoked.
-/

namespace JavaReview

namespace WaiverRow

/-- The waiver that is stored. -/
def toWaiver (row : WaiverRow) : Waiver :=
  { id := row.id
    rule := row.rule
    filename := row.filename
    pattern := row.pattern
    reason := row.reason
    expiresAt := row.expiresAt.load
    createdBy := row.createdBy
    createdAt := row.createdAt.load
    revokedAt := row.revokedAt.map (·.load) }

/-- Whether a waiver counts at a time. -/
def isActive (row : WaiverRow) (now : Instant) : Bool :=
  row.revokedAt.isNone && row.expiresAt.isAfter now

end WaiverRow

namespace Store

/-- Stores a waiver: the store then and the id of the waiver. -/
def addWaiver (s : Store) (now : Instant) (rule filename pattern reason createdBy : String)
    (expires : Instant) : Except StoreError (Store × Int) :=
  let id := nextId s.waivers
  let row : WaiverRow :=
    { id, rule, filename, pattern, reason, createdBy
      expiresAt := .ofInstant expires
      createdAt := .ofInstant now
      revokedAt := none }
  s.whenWritable (.ok ({ s with waivers := s.waivers ++ [row] }, id))

/-- Whether the waiver of an id can be revoked. -/
def revocable (id : Int) (row : WaiverRow) : Bool := row.id == id && row.revokedAt.isNone

/-- Revokes a waiver. -/
def revokeWaiver (s : Store) (now : Instant) (id : Int) : Except StoreError Store :=
  s.whenWritable <|
    if s.waivers.any (revocable id) then
      .ok { s with
        waivers := s.waivers.map fun row =>
          if revocable id row then { row with revokedAt := some (.ofInstant now) } else row }
    else .error .nothingChanged

/-- The waivers, or only the active ones, newest first. -/
def listWaivers (s : Store) (now : Instant) (activeOnly : Bool) : Except StoreError (List Waiver) :=
  let rows := if activeOnly then s.waivers.filter (·.isActive now) else s.waivers
  s.whenOpen (.ok (rows.reverse.map (·.toWaiver)))

end Store

end JavaReview
