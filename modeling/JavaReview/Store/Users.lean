import JavaReview.Store.Basic

/-!
Users and their sessions. No two users share a name and no two sessions a token, and every session
belongs to a user.
-/

namespace JavaReview

namespace User

/-- The role that may change things. -/
def adminRole : String := "admin"

/-- The role of users that are created without one. -/
def viewerRole : String := "viewer"

/-- Whether a user may change things. -/
def isAdmin (u : User) : Bool := u.role == adminRole

end User

namespace UserRow

/-- The user that is stored. -/
def toUser (row : UserRow) : User :=
  { id := row.id, username := row.username, role := row.role, createdAt := row.createdAt.load }

end UserRow

namespace Store

/-- The row of a username. -/
def userRow? (s : Store) (username : String) : Option UserRow :=
  s.users.find? (·.username == username)

/-- Creates a user: the store then and the id of the user. -/
def addUser (s : Store) (now : Instant) (username : String) (hash : PasswordHash) (role : String) :
    Except StoreError (Store × Int) :=
  let id := nextId s.users
  let row : UserRow :=
    { id, username, hash, createdAt := .ofInstant now
      role := if role = "" then User.viewerRole else role }
  (s.whenWritable <|
    if (s.userRow? username).isSome then .error .usernameTaken
    else .ok ({ s with users := s.users ++ [row] }, id)).mapError (.userNotCreated username)

/-- The user of a name, and what is kept of the password. -/
def user (s : Store) (username : String) : Except StoreError (User × PasswordHash) :=
  s.whenOpen <|
    match s.userRow? username with
    | none => .error (.noUser username)
    | some row => .ok (row.toUser, row.hash)

/-- The row of a token. -/
def sessionRow? (s : Store) (token : String) : Option SessionRow :=
  s.sessions.find? (·.token == token)

/-- Starts a session. -/
def addSession (s : Store) (user : Int) (token : String) (expires : Instant) :
    Except StoreError Store :=
  s.whenWritable <|
    if (s.sessionRow? token).isSome then .error .tokenTaken
    else if !s.users.any (·.id == user) then .error .unknownUser
    else .ok { s with sessions := s.sessions ++ [{ token, user, expiresAt := .ofInstant expires }] }

/-- The user of a session that has not expired. -/
def session (s : Store) (now : Instant) (token : String) : Except StoreError User :=
  s.whenOpen <|
    match s.sessionRow? token with
    | none => .error .noSession
    | some row =>
      match s.users.find? (·.id == row.user) with
      | none => .error .noSession
      | some user => if row.expiresAt.isAfter now then .ok user.toUser else .error .noSession

/-- Ends a session. -/
def endSession (s : Store) (token : String) : Except StoreError Store :=
  s.whenWritable <|
    if (s.sessionRow? token).isSome then
      .ok { s with sessions := s.sessions.filter (·.token != token) }
    else .error .nothingChanged

end Store

end JavaReview
