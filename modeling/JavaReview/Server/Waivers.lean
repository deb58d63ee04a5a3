import JavaReview.Server.Auth

/-!
Waivers on request: users list them, administrators add and revoke them.
-/

namespace JavaReview.Server

/-- Whether a query asks for the active waivers only. -/
def asksForActive (q : Http.Query) : Bool := ["1", "true", "yes"].contains (q.get "active")

/-- Lists the waivers. -/
def listWaivers : Handler := withUser "waivers:list" fun _ m req s =>
  let only := asksForActive req.target.query
  (stored (s.store.listWaivers m.now only) fun ws =>
    let items := if ws.isEmpty then Json.null else .arr (ws.map (·.toJson))
    reply (.obj [("active_only", .bool only), ("items", items)]), s)

/-- What is asked for when a waiver is added. -/
structure WaiverRequest where
  rule : String
  filename : String
  pattern : String
  reason : String
  expires : Instant

/-- Whether waivers may name a rule: a registered one, or the compiler. -/
def waivable (s : Server) (rule : String) : Bool :=
  (s.registry.get? rule).isSome || rule == Diagnostic.ruleName

/-- The waiver that a body asks for. -/
def readWaiver (s : Server) (b : Http.Body) : Except Refusal WaiverRequest := do
  let record ← readTexts b ["rule", "filename", "pattern", "reason", "expires_at"]
  let rule := Json.textOf record "rule"
  let reason := Json.textOf record "reason"
  let expires := Json.textOf record "expires_at"
  if rule = "" || reason = "" || expires = "" then .error .incompleteWaiver
  else if !s.waivable rule then .error (.unknownRule rule)
  else
    match Timestamp.ofText? expires with
    | none => .error .badExpiry
    | some t =>
      .ok { rule, reason, expires := t.instant
            filename := Json.textOf record "filename", pattern := Json.textOf record "pattern" }

/-- Adds a waiver. -/
def addWaiver : Handler := withAdmin "waivers:create" fun u m req s =>
  match s.readWaiver (.whole req.body) with
  | .error e => (.error e, s)
  | .ok w =>
    match s.store.addWaiver m.now w.rule w.filename w.pattern w.reason u.username w.expires with
    | .error e => (.error (.storeFailed e), s)
    | .ok (store, id) =>
      (.ok (json 201 (.obj [("id", .int id)])),
        { s with store }.note m u.username "waiver:create" ""
          (.obj [("id", .int id), ("rule", .str w.rule)]))

/-- Revokes the waiver of an id in a path. -/
def revokeWaiver (id : String) : Handler := withAdmin "waivers:revoke" fun u m _ s =>
  match readId? id with
  | none => (.error .invalidId, s)
  | some n =>
    match s.store.revokeWaiver m.now n with
    | .error _ => (.error .noWaiver, s)
    | .ok store =>
      (done, { s with store }.note m u.username "waiver:revoke" "" (.obj [("id", .int n)]))

end JavaReview.Server
