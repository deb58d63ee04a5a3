import JavaReview.Json.Read
import JavaReview.Json.Write
import JavaReview.Store.Basic

/-!
Stores as texts, to be kept in files. A row is an array of its columns. What is known of passwords and
the tokens of sessions are not written, so that the text of a store lets nobody in.
-/

namespace JavaReview.Store

/-! ## Writing -/

/-- The columns of a review. -/
def reviewColumns (r : ReviewRow) : Json :=
  .arr [.int r.id, .str r.filename, .str r.source, .str r.createdAt.text, .str r.version,
    .int r.counts.errors, .int r.counts.warnings, .int r.counts.optimizations, .int r.counts.security]

/-- The columns of a finding. -/
def findingColumns (r : FindingRow) : Json :=
  .arr [.int r.id, .int r.review, .int r.place, .str r.finding.rule, .int r.finding.line,
    .str r.finding.title, .str r.finding.description, .str r.finding.suggestion,
    .str r.finding.category.name, .str r.finding.severity.name]

/-- The columns of a user. -/
def userColumns (r : UserRow) : Json :=
  .arr [.int r.id, .str r.username, .str r.role, .str r.createdAt.text]

/-- The columns of a waiver. -/
def waiverColumns (r : WaiverRow) : Json :=
  .arr [.int r.id, .str r.rule, .str r.filename, .str r.pattern, .str r.reason, .str r.expiresAt.text,
    .str r.createdBy, .str r.createdAt.text, (r.revokedAt.map fun t => Json.str t.text).getD .null]

/-- The columns of a note. -/
def auditColumns (r : AuditRow) : Json :=
  .arr [.str r.time.text, .str r.username, .str r.action, .str r.resource, r.detail]

/-- A store as a text. -/
def archive (s : Store) : String :=
  (Json.obj [
    ("reviews", .arr (s.reviews.map reviewColumns)),
    ("findings", .arr (s.findings.map findingColumns)),
    ("rules", .arr (s.ruleStates.map fun r => .arr [.str r.1, .bool r.2])),
    ("users", .arr (s.users.map userColumns)),
    ("waivers", .arr (s.waivers.map waiverColumns)),
    ("audit", .arr (s.audit.map auditColumns))]).compact

/-! ## Reading -/

/-- The review of columns. -/
def readReview? : Json → Option ReviewRow
  | .arr [.int id, .str filename, .str source, .str created, .str version, .int e, .int w, .int o, .int s] =>
    some { id, filename, source, createdAt := ⟨created⟩, version
           counts := { errors := e, warnings := w, optimizations := o, security := s } }
  | _ => none

/-- The finding of columns. -/
def readFinding? : Json → Option FindingRow
  | .arr [.int id, .int review, .int place, .str rule, .int line, .str title, .str description,
      .str suggestion, .str category, .str severity] =>
    some { id, review, place := place.toNat
           finding := { id, rule, line, title, description, suggestion
                        category := ⟨category⟩, severity := ⟨severity⟩ } }
  | _ => none

/-- The flag of columns. -/
def readState? : Json → Option (String × Bool)
  | .arr [.str name, .bool on] => some (name, on)
  | _ => none

/-- The user of columns, whom no password lets in. -/
def readUser? : Json → Option UserRow
  | .arr [.int id, .str username, .str role, .str created] =>
    some { id, username, role, hash := .foreign "", createdAt := ⟨created⟩ }
  | _ => none

/-- The waiver of columns. -/
def readWaiver? : Json → Option WaiverRow
  | .arr [.int id, .str rule, .str filename, .str pattern, .str reason, .str expires, .str createdBy,
      .str created, revoked] =>
    some { id, rule, filename, pattern, reason, expiresAt := ⟨expires⟩, createdBy
           createdAt := ⟨created⟩
           revokedAt := match revoked with
             | .str t => some ⟨t⟩
             | _ => none }
  | _ => none

/-- The note of columns. -/
def readAudit? : Json → Option AuditRow
  | .arr [.str time, .str username, .str action, .str resource, detail] =>
    some { time := ⟨time⟩, username, action, resource, detail }
  | _ => none

/-- The rows of a table. -/
def readTable? {α : Type} (tables : List (String × Json)) (name : String) (row? : Json → Option α) :
    Option (List α) :=
  match tables.lookup name with
  | some (.arr rows) => rows.mapM row?
  | _ => none

/-- The store that a text writes. -/
def unarchive? (text : String) : Option Store := do
  match ← Json.readWhole? text.toList with
  | .obj tables =>
    return { reviews := ← readTable? tables "reviews" readReview?
             findings := ← readTable? tables "findings" readFinding?
             ruleStates := ← readTable? tables "rules" readState?
             users := ← readTable? tables "users" readUser?
             waivers := ← readTable? tables "waivers" readWaiver?
             audit := ← readTable? tables "audit" readAudit? }
  | _ => none

end JavaReview.Store
