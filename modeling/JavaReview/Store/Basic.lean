import JavaReview.Json.Value
import JavaReview.Password
import JavaReview.Review
import JavaReview.Store.Time
import JavaReview.Text.Decimal
import JavaReview.Text.Quoted
import JavaReview.Waiver

/-!
The store: a table for each kind of thing that is kept. Ids of a table count up from 1 in the order of
insertion. Nothing can be done with a store that was closed, and nothing changed in one that is only
open for reading.
-/

namespace JavaReview

/-- A stored review, apart from its findings. -/
structure ReviewRow where
  id : Int
  filename : String
  source : String
  createdAt : StoredTime
  version : String
  counts : Counts

/-- A stored finding: the review it belongs to and its place there. -/
structure FindingRow where
  id : Int
  review : Int
  place : Nat
  finding : Finding

/-- A user. -/
structure User where
  id : Int
  username : String
  role : String
  createdAt : Timestamp
deriving DecidableEq, Repr

/-- A stored user. -/
structure UserRow where
  id : Int
  username : String
  hash : PasswordHash
  role : String
  createdAt : StoredTime

/-- A stored session: whoever shows the token acts as the user. -/
structure SessionRow where
  token : String
  user : Int
  expiresAt : StoredTime

/-- A stored waiver. -/
structure WaiverRow where
  id : Int
  rule : String
  filename : String
  pattern : String
  reason : String
  expiresAt : StoredTime
  createdBy : String
  createdAt : StoredTime
  revokedAt : Option StoredTime

/-- What someone did, for later inspection. -/
structure AuditRow where
  time : StoredTime
  username : String
  action : String
  resource : String
  detail : Json

/-- The store. -/
structure Store where
  isOpen : Bool := true
  isWritable : Bool := true
  /-- Whether a change takes its lock before it starts. -/
  locksFirst : Bool := false
  reviews : List ReviewRow := []
  findings : List FindingRow := []
  ruleStates : List (String × Bool) := []
  users : List UserRow := []
  sessions : List SessionRow := []
  waivers : List WaiverRow := []
  audit : List AuditRow := []

/-- Why an operation of the store failed. -/
inductive StoreError where
  | closed
  | readOnly
  | noReview (id : Int)
  | noUser (username : String)
  | noSession
  | nothingChanged
  | usernameTaken
  | tokenTaken
  | unknownUser
  | userNotCreated (username : String) (cause : StoreError)
  | reviewNotInserted (cause : StoreError)
deriving DecidableEq, Repr

namespace StoreError

/-- The text of an error. -/
def message : StoreError → String
  | closed => "sql: database is closed"
  | readOnly => "attempt to write a readonly database (8)"
  | noReview id => "review " ++ decimal id ++ ": not found"
  | noUser username => "user " ++ quoted username ++ ": not found"
  | noSession => "not found"
  | nothingChanged => "no rows affected"
  | usernameTaken => "constraint failed: UNIQUE constraint failed: users.username (2067)"
  | tokenTaken => "constraint failed: UNIQUE constraint failed: sessions.token (1555)"
  | unknownUser => "constraint failed: FOREIGN KEY constraint failed (787)"
  | userNotCreated username cause => "create user " ++ quoted username ++ ": " ++ cause.message
  | reviewNotInserted cause => "insert review: " ++ cause.message

/-- Whether something that was asked for is not in the store. -/
def isNotFound : StoreError → Bool
  | noReview _ | noUser _ | noSession => true
  | _ => false

end StoreError

namespace Store

/-- The store without content. -/
def empty : Store := {}

/-- The id of the next row of a table. -/
def nextId {α : Type} (rows : List α) : Int := rows.length + 1

/-- Closes the store; what it holds is kept. -/
def close (s : Store) : Store := { s with isOpen := false }

/-- A store that is opened again, for reading alone or also for writing. -/
def reopen (s : Store) (isWritable locksFirst : Bool) : Store :=
  { s with isOpen := true, isWritable, locksFirst }

/-- Refuses everything if the store is closed. -/
def whenOpen {α : Type} (s : Store) (result : Except StoreError α) : Except StoreError α :=
  if s.isOpen then result else .error .closed

/-- Refuses changes if the store is closed or only open for reading. -/
def whenWritable {α : Type} (s : Store) (result : Except StoreError α) : Except StoreError α :=
  s.whenOpen (if s.isWritable then result else .error .readOnly)

/-- Notes what someone did. -/
def log (s : Store) (now : Instant) (username action resource : String) (detail : Json) :
    Except StoreError Store :=
  s.whenWritable (.ok { s with
    audit := s.audit ++ [{ time := .ofInstant now, username, action, resource, detail }] })

end Store

end JavaReview
