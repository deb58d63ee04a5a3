import JavaReview.Command.Reviews
import JavaReview.Command.Rules
import JavaReview.Store.Users
import JavaReview.Toolbox.Rpc

/-!
All commands, and what a command line comes to.
-/

namespace JavaReview.Command

open Job

/-- Adds a user. The password may come from the environment. -/
def addUser (e : Surroundings) (l : Line) : Job Unit := do
  let username := l.given.text "username" ""
  let role := l.given.text "role" User.viewerRole
  if role ≠ User.adminRole ∧ role ≠ User.viewerRole then throw .unknownRole
  let given := l.given.text "password" ""
  let password := if given = "" then (e.environment.lookup "JREVIEW_PASSWORD").getD "" else given
  let hash ← orFail .password (Password.hash password)
  let _ ← start e l.given
  let (s, id) ← orFail .store ((← store).addUser e.now username hash role)
  setStore s
  note e.now "user.create" username (.obj [("role", .str role)])
  print (Style.paint e.colored .green "Created" ++ " user " ++ username ++ " (#" ++ decimal id ++ ", " ++
    role ++ ")\n")

/-- Offers the tools on the input and the output. -/
def serveTools (e : Surroundings) (l : Line) : Job Unit := do
  let (config, engine) ← startEngine e l.given
  let box : Toolbox :=
    { registry := engine.registry
      analyzer := { compiler := engine.compiler, isolateFaults := engine.isolateFaults }
      store := some (← store)
      maxSourceBytes := config.analysis.maxSourceBytes }
  let (output, box) := box.serve e.now e.version e.input
  setStore (box.store.getD .empty)
  print output

/-- Checks that requests can be served. -/
def serve (e : Surroundings) (l : Line) : Job Unit := do
  let (config, _) ← startEngine e l.given
  let given := l.given.text "addr" ""
  let address := if given = "" then config.server.addr else given
  match Address.fault? (if address = "" then ":http" else address) with
  | some fault => throw (.address address fault)
  | none => throw (.cannotListen address)

/-- Tells the version. -/
def showVersion (e : Surroundings) : Job Unit :=
  print ("jreview " ++ e.version ++ " IR: " ++ Review.formatVersion ++
    " compiler diagnostics: false\n")

/-- What a command does. -/
def perform (e : Surroundings) (l : Line) : Job Unit :=
  match l.name with
  | .analyze => analyze e l
  | .diff => diff e l
  | .mcp => serveTools e l
  | .report => report e l
  | .reviews => listReviews e l
  | .summary => showSummary e l
  | .rulesList => listRules e l
  | .rulesEnable => toggleRules true e l
  | .rulesDisable => toggleRules false e l
  | .serve => serve e l
  | .userAdd => addUser e l
  | .version => showVersion e
  | .root | .rules | .user | .help | .completion => pure ()

/-- What a command line does. -/
def action (e : Surroundings) (args : List String) : Job Unit := do
  match ← orFail .usage (readLine args) with
  | .help => pure ()
  | .programVersion =>
    print ("jreview version " ++ e.version ++ " (IR " ++ Review.formatVersion ++ ")\n")
  | .run l => perform { e with colored := e.colored && !l.given.isOn "no-color" } l

/-- What a command line comes to. -/
structure Result where
  output : String
  failure : Option Failure
  workspace : Workspace

/-- Runs a command line in a workspace. -/
def run (e : Surroundings) (args : List String) (w : Workspace) : Result :=
  let (outcome, s) := (action e args).run.run { workspace := w }
  { output := String.join s.output
    failure := match outcome with
      | .ok _ => none
      | .error f => some f
    workspace := s.workspace.keepStore s.store }

end JavaReview.Command
