import JavaReview.Command.Session

/-!
The commands on rules. A flag that is switched is stored, so that later commands see it.
-/

namespace JavaReview.Command

open Job

/-- What is told of a rule. -/
def ruleLine (colored : Bool) (e : RuleEntry) : String :=
  (if e.enabled then Style.paint colored .green "●" else Style.paint colored .gray "○") ++ " " ++
    padRight 28 (Style.paint colored .bold e.rule.name) ++ " " ++
    Style.paint colored .gray e.rule.summary ++ "\n"

/-- Lists the rules. -/
def listRules (e : Surroundings) (l : Line) : Job Unit := do
  let (_, engine) ← startEngine e l.given
  print (String.join (engine.registry.entries.map (ruleLine e.colored)))

/-- The names that are no rules, once each, in order. -/
def unknownNames (r : Registry) (names : List String) : List String :=
  (names.filter fun n => !r.names.contains n).eraseDups.mergeSort (· ≤ ·)

/-- Switches rules on or off. -/
def toggleRules (on : Bool) (e : Surroundings) (l : Line) : Job Unit := do
  let (_, engine) ← startEngine e l.given
  let us := RuleUpdates.all on l.args
  let applied := engine.registry.applied us
  setStore (← orFail .statesNotSaved ((← store).saveStates (engine.registry.accepted us)))
  note e.now "rules.update" "rules"
    (.obj [("applied", .arr (applied.map .str)), ("enabled", .bool on)])
  let verb := if on then Style.paint e.colored .green "enabled"
    else Style.paint e.colored .yellow "disabled"
  print (String.join (applied.map fun n => verb ++ " " ++ n ++ "\n"))
  print (String.join ((unknownNames engine.registry l.args).map fun n =>
    Style.paint e.colored .red "unknown rule" ++ " " ++ n ++ "\n"))
  if applied.isEmpty then throw .noKnownRules

end JavaReview.Command
