import JavaReview.Server.Analyze
import JavaReview.Server.Reviews
import JavaReview.Server.Rules
import JavaReview.Server.Waivers

/-!
Routes: which handler a request is for, and what every request has in common. A request is answered in
this order: a path that is not clean is sent to the clean one, a request for options is answered at
once, and all others go to the handler of their route.
-/

namespace JavaReview

namespace Server

open Http (Request Response Headers Target)

/-- What a request is for. -/
inductive Route where
  | health
  | login
  | logout
  | me
  | analyze
  | upload
  | listReviews
  | review (id : String)
  | reviewFile (id : String)
  | summary
  | rules
  | updateRules
  | ruleDetails
  | listWaivers
  | addWaiver
  | revokeWaiver (id : String)
  | unknown
deriving DecidableEq, Repr

namespace Route

/-- Whether a segment of a path can be an id. -/
def isIdSegment (s : String) : Bool := s ≠ "" && s ≠ "/"

/-- The route of a path for requests that read. -/
def ofRead : List String → Route
  | ["health"] => health
  | ["auth", "me"] => me
  | ["reviews"] => listReviews
  | ["reviews", id] => if isIdSegment id then review id else unknown
  | ["reviews", id, "export"] => if isIdSegment id then reviewFile id else unknown
  | ["dashboard", "summary"] => summary
  | ["rules"] => rules
  | ["rules", "meta"] => ruleDetails
  | ["waivers"] => listWaivers
  | _ => unknown

/-- The route of a path for requests that send something. -/
def ofSend : List String → Route
  | ["auth", "login"] => login
  | ["auth", "logout"] => logout
  | ["analyze"] => analyze
  | ["analyze", "upload"] => upload
  | ["waivers"] => addWaiver
  | ["waivers", id, "revoke"] => if isIdSegment id then revokeWaiver id else unknown
  | _ => unknown

/-- The route of a path for requests that replace something. -/
def ofReplace : List String → Route
  | ["rules"] => updateRules
  | _ => unknown

/-- The route of a method and the segments of a path. -/
def ofPath (method : String) : List String → Route
  | "api" :: "v1" :: path =>
    if method = "GET" ∨ method = "HEAD" then ofRead path
    else if method = "POST" then ofSend path
    else if method = "PUT" then ofReplace path
    else unknown
  | _ => unknown

end Route

/-- Tells that the server is there. -/
def health : Handler := fun m _ s =>
  (reply (.obj [("ok", .bool true), ("rules", .int s.registry.size),
    ("timestamp", .str (Timestamp.utc m.now).text)]), s)

/-- The handler of a route. -/
def handler : Route → Handler
  | .health => health
  | .login => login
  | .logout => logout
  | .me => me
  | .analyze => analyze
  | .upload => upload
  | .listReviews => listReviews
  | .review id => showReview id
  | .reviewFile id => exportReview id
  | .summary => showSummary
  | .rules => showRules
  | .updateRules => updateRules
  | .ruleDetails => showRuleDetails
  | .listWaivers => listWaivers
  | .addWaiver => addWaiver
  | .revokeWaiver id => revokeWaiver id
  | .unknown => fun _ _ s => (.error .unknownPath, s)

/-- The origin that a response allows: the first allowed one that is any or the origin of the
request. -/
def allowedOrigin? (origins : List String) (origin : String) : Option String :=
  (origins.find? fun o => o == "*" || (origin != "" && Text.equalFold origin.toList o.toList)).map
    fun o => if o = "*" then "*" else origin

/-- The header fields about origins. -/
def originHeaders (s : Server) (req : Request) : Headers :=
  (match allowedOrigin? s.allowedOrigins (req.headers.get "Origin") with
    | none => []
    | some o =>
      ("Access-Control-Allow-Origin", o) ::
        if o = "*" then [] else [("Access-Control-Allow-Credentials", "true")]) ++
  [("Vary", "Origin"),
    ("Access-Control-Allow-Methods", "GET, HEAD, OPTIONS, POST, PUT"),
    ("Access-Control-Allow-Headers", "Content-Type, Authorization, X-Request-ID")]

/-- The path by which a request is routed. -/
def routedPath (req : Request) : List Char :=
  if req.method = "CONNECT" then req.target.escapedPath else Target.cleanPath req.target.escapedPath

/-- The route of a request. -/
def routeOf (req : Request) : Route := .ofPath req.method (Target.segments (routedPath req))

/-- Answers a request with a clean path. -/
def dispatch (m : Moment) (req : Request) (s : Server) : Response × Server :=
  if req.method = "OPTIONS" then ({ status := 204, headers := s.originHeaders req }, s)
  else
    let (outcome, s') := handler (routeOf req) m req s
    ((respond outcome).withHeaders (s.originHeaders req), s')

/-- The id of a request: its own, or a new one. -/
def requestId (m : Moment) (req : Request) : String :=
  let own := req.headers.get "X-Request-ID"
  if own = "" then m.requestId else own

/-- Answers a request. A target that stands for the server as a whole is refused. -/
def handle (m : Moment) (req : Request) (s : Server) : Response × Server :=
  let (response, s') :=
    if req.target.rawPath = ['*'] then ({ status := 400, headers := [("Connection", "close")] }, s)
    else if routedPath req ≠ req.target.escapedPath then
      (.redirect req.method (req.target.withPath (routedPath req)), s)
    else dispatch m req s
  (response.withHeaders [("X-Request-ID", requestId m req)], s')

end Server

end JavaReview
