import JavaReview.Engine
import JavaReview.Http.Message
import JavaReview.Json.Read
import JavaReview.Store.Json
import JavaReview.Store.Users

/-!
The server: what it holds between two requests, what a request brings from outside, and the answers
that it gives. Handling a request is a function of the server; the present time and random texts are
given with the request.
-/

namespace JavaReview

/-- A server. -/
structure Server where
  store : Store := .empty
  registry : Registry := .default
  /-- Without one an analysis fails. -/
  analyzer : Option Analyzer := some {}
  allowedOrigins : List String := []
  /-- How long a session lasts; what is not positive stands for twelve hours. -/
  sessionSeconds : Int := 0
  /-- The size of the largest source text; what is not positive is no limit. -/
  maxSourceBytes : Int := 0
  /-- How many more analyses are allowed, if they are limited. -/
  allowance : Option Nat := none

namespace Server

/-- What the outside gives to a request: the time, and texts that were not used before. -/
structure Moment where
  now : Instant
  token : String
  requestId : String

/-- Why a request is refused. -/
inductive Refusal where
  | invalidJson
  | invalidRules
  | invalidId
  | incompleteWaiver
  | unknownRule (name : String)
  | badExpiry
  | noFile
  | unauthorized
  | wrongCredentials
  | adminRequired
  | unknownPath
  | noReview
  | noWaiver
  | requestTooLarge
  | uploadTooLarge
  | sourceTooLarge (limit : Int)
  | tooManyRequests
  | analysisFailed (cause : AnalysisError)
  | storeFailed (cause : StoreError)
  | sessionFailed
  | internal
deriving DecidableEq, Repr

namespace Refusal

/-- The status of a refusal. -/
def status : Refusal → Nat
  | invalidJson | invalidRules | invalidId | incompleteWaiver | unknownRule _ | badExpiry | noFile => 400
  | unauthorized | wrongCredentials => 401
  | adminRequired => 403
  | unknownPath | noReview | noWaiver => 404
  | requestTooLarge | uploadTooLarge | sourceTooLarge _ => 413
  | tooManyRequests => 429
  | analysisFailed _ | storeFailed _ | sessionFailed | internal => 500

/-- The text of a refusal. -/
def message : Refusal → String
  | invalidJson => "invalid json"
  | invalidRules => "invalid json (want \x7b\"rule\": true|false\x7d)"
  | invalidId => "invalid id"
  | incompleteWaiver => "rule, reason, expires_at required"
  | unknownRule name => "unknown rule " ++ quoted name
  | badExpiry => "bad expires_at (use RFC3339)"
  | noFile => "multipart field 'file' required"
  | unauthorized => "unauthorized"
  | wrongCredentials => "invalid credentials"
  | adminRequired => "admin role required"
  | unknownPath => "not found"
  | noReview => "review not found"
  | noWaiver => "waiver not found or already revoked"
  | requestTooLarge => "request too large"
  | uploadTooLarge => "upload too large"
  | sourceTooLarge limit => "source exceeds " ++ decimal limit ++ " bytes"
  | tooManyRequests => "rate limit exceeded"
  | analysisFailed cause => "analysis failed: " ++ cause.message
  | storeFailed cause => "db error: " ++ cause.message
  | sessionFailed => "session error"
  | internal => "internal server error"

/-- The header fields that a refusal adds. -/
def headers : Refusal → Http.Headers
  | tooManyRequests => [("Retry-After", "1")]
  | _ => []

end Refusal

/-- What a request comes to. -/
abbrev Outcome := Except Refusal Http.Response

/-- A way to handle a request. -/
abbrev Handler := Moment → Http.Request → Server → Outcome × Server

/-- A value as a response. -/
def json (status : Nat) (v : Json) : Http.Response :=
  { status, headers := [("Content-Type", "application/json")], body := v.compact ++ "\n" }

/-- The response with a value. -/
def reply (v : Json) : Outcome := .ok (json 200 v)

/-- The response that says only that a request was carried out. -/
def done : Outcome := reply (.obj [("ok", .bool true)])

/-- The response for an outcome. -/
def respond : Outcome → Http.Response
  | .ok r => r
  | .error e => (json e.status (.obj [("error", .str e.message)])).withHeaders e.headers

/-- Refuses a request if the store refuses. -/
def stored {α : Type} (r : Except StoreError α) (next : α → Outcome) : Outcome :=
  match r with
  | .ok a => next a
  | .error e => .error (.storeFailed e)

/-- Notes what someone did. A note that cannot be stored is dropped. -/
def note (s : Server) (m : Moment) (username action resource : String) (detail : Json) : Server :=
  match s.store.log m.now username action resource detail with
  | .ok store => { s with store }
  | .error _ => s

/-- The value at the start of a body. What may go on beyond the part that was read is refused: a
number or a word counts only if something follows it. -/
def readBody (b : Http.Body) : Except Refusal Json :=
  match Json.readFirst b.text with
  | .error .ended => .error (if b.complete then .invalidJson else .requestTooLarge)
  | .error _ => .error .invalidJson
  | .ok (v, rest) => if !b.complete && rest.isEmpty && !closed v then .error .requestTooLarge else .ok v
where
  /-- Whether the end of a value shows without looking further. -/
  closed : Json → Bool
    | .str _ | .arr _ | .obj _ => true
    | _ => false

/-- The texts of a record in a body. -/
def readTexts (b : Http.Body) (names : List String) : Except Refusal (List (String × String)) := do
  match Json.texts? names (← readBody b) with
  | none => .error .invalidJson
  | some record => .ok record

/-- A positive id. -/
def readId? (s : String) : Option Int := (readDecimal? s.toList).filter (0 < ·)

end Server

end JavaReview
