import JavaReview.File.Tree
import JavaReview.Text.Quoted
import JavaReview.Text.Space
import JavaReview.Yaml.Expansion

/-!
Settings of the program. A YAML file is read over the defaults, single settings are taken from the
environment after that, and the result is checked.
-/

namespace JavaReview

/-- Where reviews are stored. -/
structure Config.Database where
  driver : String := "sqlite"
  dsn : String := "./jreview.db"

/-- How sources are analysed. -/
structure Config.Analysis where
  sources : Option (List String) := none
  disabledRules : Option (List String) := none
  rulePacks : Option (List String) := none
  isolateRuleFaults : Bool := false
  compilerDiagnostics : Bool := true
  maxSourceBytes : Int := 1048576
  workers : Int := 4

/-- Where reports go. -/
structure Config.Reporting where
  outDir : String := "./reports"

/-- How events are logged. -/
structure Config.Logging where
  format : String := "json"
  level : String := "info"

/-- How requests are served. -/
structure Config.Server where
  addr : String := ":8080"
  allowedOrigins : Option (List String) := some ["http://localhost:3000"]
  sessionHours : Int := 12
  analyzeRate : Binary64 := .ofInt 5
  analyzeBurst : Int := 10

/-- Settings of the program. -/
structure Config where
  database : Config.Database := {}
  analysis : Config.Analysis := {}
  reporting : Config.Reporting := {}
  logging : Config.Logging := {}
  server : Config.Server := {}

/-- Why settings cannot be used. -/
inductive ConfigError where
  | unreadable (e : FileError)
  | malformed (path : String) (e : Yaml.Error)
  | unsupportedDriver (driver : String)
  | negativeSourceLimit
  | negativeRate

namespace ConfigError

/-- The text of an error. -/
def message : ConfigError → String
  | unreadable e => "read config: " ++ e.message
  | malformed path e => "parse config " ++ path ++ ": " ++ e.message
  | unsupportedDriver driver => "database.driver " ++ quoted driver ++ " not supported"
  | negativeSourceLimit => "analysis.max_source_bytes must not be negative"
  | negativeRate => "server.analyze_rps must not be negative"

end ConfigError

namespace Config

open Yaml (Place Result)

/-- A list of texts of a record. -/
def texts (fs : Yaml.Fields) (name : String) (default : Option (List String)) :
    Result (Option (List String)) :=
  fs.get name (Place.list? Place.text?) default

/-- A section of the file read over the settings so far. -/
def readSection {α : Type} (fs : Yaml.Fields) (name : String) (read : α → Yaml.Fields → Result α)
    (c : α) : Result α :=
  fs.get name (fun p => do return some (← read c (← p.fields))) c

/-- Reads the section on the database. -/
def Database.read (c : Database) (fs : Yaml.Fields) : Result Database := do
  return { driver := ← fs.get "driver" Place.text? c.driver, dsn := ← fs.get "dsn" Place.text? c.dsn }

/-- Reads the section on the analysis. -/
def Analysis.read (c : Analysis) (fs : Yaml.Fields) : Result Analysis := do
  return { sources := ← texts fs "sources" c.sources
           disabledRules := ← texts fs "disabled_rules" c.disabledRules
           rulePacks := ← texts fs "rule_packs" c.rulePacks
           isolateRuleFaults := ← fs.get "isolate_rule_faults" Place.flag? c.isolateRuleFaults
           compilerDiagnostics := ← fs.get "compiler_diagnostics" Place.flag? c.compilerDiagnostics
           maxSourceBytes := ← fs.get "max_source_bytes" Place.int? c.maxSourceBytes
           workers := ← fs.get "workers" Place.int? c.workers }

/-- Reads the section on reports. -/
def Reporting.read (c : Reporting) (fs : Yaml.Fields) : Result Reporting := do
  return { outDir := ← fs.get "out_dir" Place.text? c.outDir }

/-- Reads the section on logs. -/
def Logging.read (c : Logging) (fs : Yaml.Fields) : Result Logging := do
  return { format := ← fs.get "format" Place.text? c.format
           level := ← fs.get "level" Place.text? c.level }

/-- Reads the section on the server. -/
def Server.read (c : Server) (fs : Yaml.Fields) : Result Server := do
  return { addr := ← fs.get "addr" Place.text? c.addr
           allowedOrigins := ← texts fs "allowed_origins" c.allowedOrigins
           sessionHours := ← fs.get "session_hours" Place.int? c.sessionHours
           analyzeRate := ← fs.get "analyze_rps" Place.real? c.analyzeRate
           analyzeBurst := ← fs.get "analyze_burst" Place.int? c.analyzeBurst }

/-- What the file is read as. -/
def shape : Yaml.Shape :=
  .record
    [("database", .ofNames ["driver", "dsn"]),
      ("analysis", .record
        [("sources", .list .scalar), ("disabled_rules", .list .scalar), ("rule_packs", .list .scalar),
          ("isolate_rule_faults", .scalar), ("compiler_diagnostics", .scalar),
          ("max_source_bytes", .scalar), ("workers", .scalar)]),
      ("reporting", .ofNames ["out_dir"]),
      ("logging", .ofNames ["format", "level"]),
      ("server", .record
        [("addr", .scalar), ("allowed_origins", .list .scalar), ("session_hours", .scalar),
          ("analyze_rps", .scalar), ("analyze_burst", .scalar)])]

/-- Reads a YAML text over the settings so far. -/
def read (c : Config) (text : String) : Result Config := do
  match ← Yaml.parse text.toList with
  | none => return c
  | some document =>
    document.checkAliases shape
    let fs ← document.start.fields
    return { database := ← readSection fs "database" Database.read c.database
             analysis := ← readSection fs "analysis" Analysis.read c.analysis
             reporting := ← readSection fs "reporting" Reporting.read c.reporting
             logging := ← readSection fs "logging" Logging.read c.logging
             server := ← readSection fs "server" Server.read c.server }

/-- Variables of the environment. -/
abbrev Environment := List (String × String)

/-- The items of a list with commas, without the white space around them and without empty ones. -/
def splitList (s : String) : List String :=
  ((Text.splitOn ',' s.toList).map fun p => String.ofList (Text.trim p)).filter (· ≠ "")

/-- A list, or none if it is empty. -/
def nonempty? (l : List String) : Option (List String) := if l.isEmpty then none else some l

/-- A setting from the environment, where empty variables do not count. -/
def override {α : Type} (env : Environment) (name : String) (read : String → α) (old : α) : α :=
  match env.lookup name with
  | none => old
  | some v => if v = "" then old else read v

/-- The settings with those that the environment gives. -/
def applyEnvironment (c : Config) (env : Environment) : Config :=
  { database := { c.database with dsn := override env "JREVIEW_DB_DSN" id c.database.dsn }
    analysis := { c.analysis with
      workers := override env "JREVIEW_WORKERS" (fun v => (readDecimal? v.toList).getD c.analysis.workers)
        c.analysis.workers }
    reporting := { outDir := override env "JREVIEW_OUT_DIR" id c.reporting.outDir }
    logging :=
      { format := override env "JREVIEW_LOG_FORMAT" id c.logging.format
        level := override env "JREVIEW_LOG_LEVEL" id c.logging.level }
    server := { c.server with
      addr := override env "JREVIEW_ADDR" id c.server.addr
      allowedOrigins := override env "JREVIEW_ALLOWED_ORIGINS" (fun v => nonempty? (splitList v))
        c.server.allowedOrigins } }

/-- Checks that the program can run with the settings. -/
def validate (c : Config) : Except ConfigError Config :=
  if c.database.driver ≠ "" ∧ c.database.driver ≠ "sqlite" then
    .error (.unsupportedDriver c.database.driver)
  else if c.analysis.maxSourceBytes < 0 then .error .negativeSourceLimit
  else if c.server.analyzeRate.isNegative then .error .negativeRate
  else .ok c

/-- The defaults under a file. An absent file is no error, and neither is no path. -/
def ofFile (tree : FileTree) (path : String) : Except ConfigError Config :=
  if path = "" then .ok {}
  else
    match tree.read path with
    | .error e => if e.fault = .absent then .ok {} else .error (.unreadable e)
    | .ok text => (read {} text).mapError (.malformed path)

/-- The settings of a file and an environment. -/
def load (tree : FileTree) (env : Environment) (path : String) : Except ConfigError Config := do
  validate ((← ofFile tree path).applyEnvironment env)

end Config

end JavaReview
