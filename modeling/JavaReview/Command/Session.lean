import JavaReview.Command.Address
import JavaReview.Command.Name
import JavaReview.Command.Style
import JavaReview.Command.Workspace
import JavaReview.Engine
import JavaReview.Report
import JavaReview.Startup

/-!
Running a command: a computation that writes to the output, works on a workspace and an open store,
and may fail. What was done before a failure stays done.
-/

namespace JavaReview.Command

/-- What a command finds around it. -/
structure Surroundings where
  environment : Config.Environment := []
  now : Instant
  colored : Bool := false
  input : String := ""
  version : String := "dev"

/-- Why a command failed. -/
inductive Failure where
  | usage (cause : UsageError)
  | config (cause : ConfigError)
  | schema (cause : OpenError)
  | startup (cause : StartupError)
  | unknownFormat (name : String)
  | noPaths
  | nothingToAnalyze
  | analysis (cause : AnalysisError)
  | waivers (cause : StoreError)
  | notSaved (filename : String) (cause : StoreError)
  | notWritten (filename : String) (cause : Report.WriteError)
  | report (cause : Report.WriteError)
  | notLoaded (what : String) (cause : StoreError)
  | store (cause : StoreError)
  | statesNotSaved (cause : StoreError)
  | noKnownRules
  | unknownRole
  | password (cause : PasswordError)
  | address (text : String) (fault : AddressFault)
  | cannotListen (address : String)

/-- What a command changes. -/
structure Session where
  workspace : Workspace
  store : OpenedStore := ⟨none, .empty⟩
  output : List String := []

/-- A computation of a command. -/
abbrev Job := ExceptT Failure (StateM Session)

namespace Job

/-- Writes a text to the output. -/
def print (s : String) : Job Unit := modify fun x => { x with output := x.output ++ [s] }

/-- The value of a result, or a failure. -/
def orFail {ε α : Type} (failure : ε → Failure) : Except ε α → Job α
  | .ok a => pure a
  | .error e => throw (failure e)

/-- The open store. -/
def store : Job Store := do return (← get).store.store

/-- Changes the open store. -/
def setStore (s : Store) : Job Unit := modify fun x => { x with store := { x.store with store := s } }

/-- Changes the files. -/
def setTree (t : FileTree) : Job Unit :=
  modify fun x => { x with workspace := { x.workspace with tree := t } }

/-- The files. -/
def tree : Job FileTree := do return (← get).workspace.tree

/-- Notes what was done. A note that cannot be stored is dropped. -/
def note (now : Instant) (action resource : String) (detail : Json) : Job Unit := do
  match (← store).log now "cli" action resource detail with
  | .ok s => setStore s
  | .error _ => pure ()

/-- Reads the settings and opens the store. A flag counts more than a setting. -/
def start (e : Surroundings) (given : Given) : Job Config := do
  let config ← orFail .config (Config.load (← tree) e.environment (given.text "config" ""))
  let source := given.text "db" ""
  let source := if source = "" then config.database.dsn else source
  let (opened, workspace) := (← get).workspace.openStore source
  modify fun x => { x with workspace }
  let opened ← orFail .schema opened
  modify fun x => { x with store := opened }
  return config

/-- Starts, and makes the registry and the engine. -/
def startEngine (e : Surroundings) (given : Given) : Job (Config × Engine) := do
  let config ← start e given
  let registry ← orFail .startup (Registry.ofStore (← tree) config.analysis (← store))
  return (config, { registry, isolateFaults := config.analysis.isolateRuleFaults })

end Job

namespace Failure

/-- The text of a failure. -/
def message : Failure → String
  | usage cause => cause.message
  | config cause => cause.message
  | schema cause => "create schema: " ++ cause.message
  | startup cause => cause.message
  | unknownFormat name => Report.Format.unknownMessage name
  | noPaths => "analyze: give at least one path (or set analysis.sources)"
  | nothingToAnalyze => "analyze: nothing to analyze"
  | analysis cause => cause.message
  | waivers cause => "load waivers: " ++ cause.message
  | notSaved filename cause => "save review " ++ filename ++ ": " ++ cause.message
  | notWritten filename cause => "write report " ++ filename ++ ": " ++ cause.message
  | report cause => cause.message
  | notLoaded what cause => "load " ++ what ++ ": " ++ cause.message
  | store cause => cause.message
  | statesNotSaved cause => "save rule states: " ++ cause.message
  | noKnownRules => "no known rules given"
  | unknownRole => "role must be \"admin\" or \"viewer\""
  | password cause => cause.message
  | address text fault => fault.message text
  | cannotListen place => "serving on " ++ place ++ " is not available"

end Failure

end JavaReview.Command
