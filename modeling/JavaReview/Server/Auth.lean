import JavaReview.Http.Cookie
import JavaReview.Server.Basic

/-!
Who sends a request. A session is started with a password and shown with a cookie; some handlers need
the session of a user, some that of an administrator.
-/

namespace JavaReview.Server

open Http (Request Response Cookie)

/-- The name of the cookie that shows a session. -/
def sessionCookie : String := "jreview_session"

/-- The cookies of a request, from all its fields for them. -/
def cookies (req : Request) : List (String × String) :=
  (req.headers.getAll "Cookie").flatMap Cookie.parseAll

/-- The token that a request shows: that of its first cookie for sessions. -/
def sessionToken? (req : Request) : Option String :=
  ((cookies req).lookup sessionCookie).filter (· ≠ "")

/-- The user whose session a request shows. -/
def userOf? (s : Server) (now : Instant) (req : Request) : Option User :=
  (sessionToken? req).bind fun token => (s.store.session now token).toOption

/-- Notes what a request of a user is about. -/
def noteUser (s : Server) (m : Moment) (u : User) (action : String) (req : Request) : Server :=
  s.note m u.username action req.target.path (.obj [("method", .str req.method)])

/-- Handles requests of users only, and notes each. -/
def withUser (action : String) (next : User → Handler) : Handler := fun m req s =>
  match s.userOf? m.now req with
  | none => (.error .unauthorized, s)
  | some u => next u m req (s.noteUser m u action req)

/-- Handles requests of administrators only. -/
def withAdmin (action : String) (next : User → Handler) : Handler :=
  withUser action fun u m req s =>
    if u.isAdmin then next u m req s else (.error .adminRequired, s)

/-- How long a session lasts, in seconds. -/
def sessionLength (s : Server) : Int := if s.sessionSeconds > 0 then s.sessionSeconds else 12 * 3600

/-- The name and the role of a user. -/
def identity (u : User) : Json := .obj [("username", .str u.username), ("role", .str u.role)]

/-- The user with this name and password. -/
def authenticate (s : Server) (username password : String) : Except Refusal User :=
  match s.store.user username with
  | .error _ => .error .wrongCredentials
  | .ok (u, hash) => if Password.check hash password then .ok u else .error .wrongCredentials

/-- The user whose name and password a request gives. -/
def identify (s : Server) (req : Request) : Except Refusal User := do
  let record ← readTexts (.whole req.body) ["username", "password"]
  s.authenticate (Json.textOf record "username") (Json.textOf record "password")

/-- Starts a session of a user with a token. -/
def startSession (s : Server) (now : Instant) (u : User) (token : String) : Except StoreError Server :=
  (s.store.addSession u.id token (now.addSeconds s.sessionLength)).map fun store => { s with store }

/-- Notes that a user has logged in. -/
def noteLogin (s : Server) (m : Moment) (u : User) (req : Request) : Server :=
  s.note m u.username "login" "" (.obj [("ip", .str req.remote)])

/-- Starts a session for whoever sends the right password. -/
def login : Handler := fun m req s =>
  match s.identify req with
  | .error e => (.error e, s)
  | .ok u =>
    match s.startSession m.now u m.token with
    | .error _ => (.error .sessionFailed, s)
    | .ok s' =>
      let cookie : Cookie :=
        { name := sessionCookie, value := m.token, sameSiteLax := true
          expires := m.now.addSeconds s.sessionLength }
      ((reply (identity u)).map (·.withHeaders [("Set-Cookie", cookie.header)]), s'.noteLogin m u req)

/-- Ends the session that a request shows, if the store does so. -/
def endSession? (s : Server) (req : Request) : Option Server :=
  ((sessionToken? req).bind fun token => (s.store.endSession token).toOption).map fun store =>
    { s with store }

/-- Ends the session that a request shows. That it could not be ended is not told. -/
def logout : Handler := withUser "auth:logout" fun _ _ req s =>
  let cookie : Cookie := { name := sessionCookie, value := "", expires := .ofParts 0 0, drop := true }
  (done.map (·.withHeaders [("Set-Cookie", cookie.header)]), (s.endSession? req).getD s)

/-- Tells users who they are. -/
def me : Handler := withUser "me" fun u _ _ s => (reply (identity u), s)

end JavaReview.Server
