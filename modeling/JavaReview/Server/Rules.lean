import JavaReview.Server.Auth
import JavaReview.Store.RuleStates

/-!
Rules on request. An update changes the flags of the registry first and then stores those that it
changed.
-/

namespace JavaReview

namespace Server

/-- Shows the flags of the rules. -/
def showRules : Handler := fun _ _ s => (reply (Registry.statesJson s.registry.states), s)

/-- Shows the rules with their summaries. -/
def showRuleDetails : Handler := fun _ _ s =>
  let items := s.registry.entries.map fun e =>
    Json.obj [("name", .str e.rule.name), ("summary", .str e.rule.summary), ("enabled", .bool e.enabled)]
  (reply (.obj [("count", .int s.registry.size), ("items", .arr items)]), s)

/-- The server with flags of its registry changed. -/
def setRules (s : Server) (us : RuleUpdates) : Server := { s with registry := s.registry.setStates us }

/-- The server with flags stored. If they cannot be stored the store stays as it is. -/
def storeRules (s : Server) (flags : List (String × Bool)) : Server :=
  match s.store.saveStates flags with
  | .ok store => { s with store }
  | .error _ => s

/-- Changes flags and stores them. -/
def changeRules (s : Server) (us : RuleUpdates) : Server :=
  (s.setRules us).storeRules (s.registry.accepted us)

/-- The updates in a body. -/
def readUpdates (b : Http.Body) : Except Refusal RuleUpdates :=
  match readBody b with
  | .error _ => .error .invalidRules
  | .ok v =>
    match Json.flags? v with
    | none => .error .invalidRules
    | some us => .ok us

/-- Switches rules on and off. -/
def updateRules : Handler := withAdmin "rules:update" fun u m req s =>
  match readUpdates (.whole req.body) with
  | .error e => (.error e, s)
  | .ok us =>
    let s' := (s.changeRules us).note m u.username "rules:update" ""
      (.obj [("applied", .arr ((s.registry.applied us).map .str))])
    (reply (Registry.statesJson s'.registry.states), s')

end Server

end JavaReview
