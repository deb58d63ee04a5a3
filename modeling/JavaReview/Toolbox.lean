import JavaReview.Engine
import JavaReview.Json.Fit
import JavaReview.Json.Read
import JavaReview.Store.Reviews
import JavaReview.Store.RuleStates

/-!
The toolbox: analysing a source text, listing the rules and switching them, each as a tool that is
called with named arguments and answers with a text. Arguments that are missing or of another kind
count as not given.
-/

namespace JavaReview

/-- The tools. -/
inductive Tool where
  | analyzeSource
  | listRules
  | setRules
deriving DecidableEq, Repr

/-- An argument of a tool. -/
structure ToolArgument where
  name : String
  kind : String
  description : String
  required : Bool := false

namespace Tool

/-- All tools. -/
def all : List Tool := [analyzeSource, listRules, setRules]

/-- The name of a tool. -/
def name : Tool → String
  | analyzeSource => "analyze_source"
  | listRules => "list_rules"
  | setRules => "set_rules"

/-- The tool of a name. -/
def ofName? (n : String) : Option Tool := all.find? (·.name == n)

/-- What a tool is for. -/
def description : Tool → String
  | analyzeSource =>
    "Review Java source text with the heuristic rules and the syntax checker. " ++
      "Returns per-category counts and every issue with its line number."
  | listRules => "List every review rule in execution order with its enabled flag."
  | setRules =>
    "Enable or disable rules by name. Unknown names are ignored. " ++
      "Returns the full rule state afterwards."

/-- The arguments of a tool. -/
def arguments : Tool → List ToolArgument
  | analyzeSource => [
      { name := "code", kind := "string", required := true
        description := "The Java source text to review" },
      { name := "filename", kind := "string"
        description := "File name used for reporting and type-name checks (default inline.java)" },
      { name := "save", kind := "boolean"
        description := "Store the review so it can be listed and exported later" }]
  | listRules => []
  | setRules => [
      { name := "updates", kind := "string", required := true
        description :=
          "JSON object of rule name to enabled flag, e.g. \x7b\"long-line\": false\x7d" }]

end Tool

/-- What tools work with. -/
structure Toolbox where
  registry : Registry := .default
  analyzer : Analyzer := {}
  /-- Without one nothing can be saved. -/
  store : Option Store := none
  /-- The size of the largest source text; what is not positive is no limit. -/
  maxSourceBytes : Int := 0

/-- The answer of a tool. -/
structure ToolAnswer where
  isError : Bool := false
  text : String
deriving DecidableEq, Repr

/-- Why a text writes no updates: it writes no value, or a value that is no object of flags. -/
inductive UpdatesFault where
  | unreadable (cause : Json.ReadError)
  | misfit (m : Json.Misfit)
deriving DecidableEq, Repr

namespace UpdatesFault

/-- The text of a fault of updates. -/
def message : UpdatesFault → String
  | unreadable cause => cause.message
  | misfit m => m.message

end UpdatesFault

/-- Why a tool failed. -/
inductive ToolError where
  | sourceTooLarge (limit : Int)
  | analysisFailed (cause : AnalysisError)
  | noStore
  | notSaved (cause : StoreError)
  | badUpdates (cause : UpdatesFault)
  | statesNotSaved (cause : StoreError)
deriving DecidableEq, Repr

namespace ToolError

/-- The text of a failure. -/
def message : ToolError → String
  | sourceTooLarge limit => "code exceeds " ++ decimal limit ++ " bytes"
  | analysisFailed cause => "analysis failed: " ++ cause.message
  | noStore => "saving is not available: no database configured"
  | notSaved cause => "failed to save review: " ++ cause.message
  | badUpdates cause => "updates must be a JSON object of name to bool: " ++ cause.message
  | statesNotSaved cause => "applied but not saved: " ++ cause.message

end ToolError

namespace Toolbox

/-- The arguments of a call. -/
abbrev Arguments := List (String × Json)

/-- The text of an argument, or the empty text. -/
def textArgument (args : Arguments) (name : String) : String :=
  match args.reverse.lookup name with
  | some (.str s) => s
  | _ => ""

/-- The flag of an argument, or false. -/
def flagArgument (args : Arguments) (name : String) : Bool :=
  match args.reverse.lookup name with
  | some (.bool b) => b
  | _ => false

/-- One finding of a review. -/
def findingText (f : Finding) : String :=
  "- [" ++ f.category.name ++ "/" ++ f.severity.name ++ "] line " ++ decimal f.line ++ ": **" ++
    f.title ++ "** (" ++ f.rule ++ "). " ++ f.description ++ " Suggestion: " ++ f.suggestion ++ "\n"

/-- The text of a review. -/
def reviewText (r : Review) : String :=
  "## Review of " ++ r.filename ++ "\n\n" ++
    (if r.id > 0 then "- **Review ID**: " ++ decimal r.id ++ "\n" else "") ++
    "- **Errors**: " ++ decimal r.counts.errors ++ "\n" ++
    "- **Warnings**: " ++ decimal r.counts.warnings ++ "\n" ++
    "- **Optimizations**: " ++ decimal r.counts.optimizations ++ "\n" ++
    "- **Security**: " ++ decimal r.counts.security ++ "\n" ++
    "- **Total**: " ++ decimal r.counts.total ++ "\n" ++
    if r.findings.isEmpty then "\nNo issues found.\n"
    else "\n### Issues\n\n" ++ String.join (r.findings.map findingText)

/-- The review of a source text. -/
def review (t : Toolbox) (now : Instant) (args : Arguments) : Except ToolError Review :=
  let source := textArgument args "code"
  if t.maxSourceBytes > 0 && byteSize source > t.maxSourceBytes then
    .error (.sourceTooLarge t.maxSourceBytes)
  else
    ((t.analyzer.engine t.registry).analyze now false source (textArgument args "filename")).mapError
      .analysisFailed

/-- Saves a review. -/
def save (t : Toolbox) (now : Instant) (r : Review) : Except ToolError (Review × Toolbox) :=
  match t.store with
  | none => .error .noStore
  | some store =>
    match store.save now r with
    | .error e => .error (.notSaved e)
    | .ok (store, saved) => .ok (saved, { t with store := some store })

/-- Reviews a source text, and saves the review if that is asked for. -/
def analyzeSource (t : Toolbox) (now : Instant) (args : Arguments) :
    Except ToolError String × Toolbox :=
  match t.review now args with
  | .error e => (.error e, t)
  | .ok r =>
    if flagArgument args "save" then
      match t.save now r with
      | .error e => (.error e, t)
      | .ok (saved, t') => (.ok (reviewText saved), t')
    else (.ok (reviewText r), t)

/-- One rule in the list of the rules. -/
def ruleText (e : RuleEntry) : String :=
  "- [" ++ (if e.enabled then "x" else " ") ++ "] \x60" ++ e.rule.name ++ "\x60: " ++
    e.rule.summary ++ "\n"

/-- Lists the rules. -/
def listRules (t : Toolbox) : String :=
  "## Rules\n\n" ++ String.join (t.registry.entries.map ruleText)

/-- The toolbox with flags of its registry changed. -/
def withStates (t : Toolbox) (us : RuleUpdates) : Toolbox :=
  { t with registry := t.registry.setStates us }

/-- The toolbox with flags stored, if there is a store. -/
def storeStates (t : Toolbox) (flags : List (String × Bool)) : Except StoreError Toolbox :=
  match t.store with
  | none => .ok t
  | some store => (store.saveStates flags).map fun store => { t with store := some store }

/-- The updates that a text writes. -/
def readUpdates (s : String) : Except UpdatesFault RuleUpdates :=
  match Json.readWhole s.toList with
  | .error e => .error (.unreadable e)
  | .ok v =>
    match Json.misfit? "" [] .flags v with
    | some m => .error (.misfit m)
    | none => .ok ((Json.flags? v).getD [])

/-- Switches rules: the registry first, and then what is stored of it. -/
def setRules (t : Toolbox) (args : Arguments) : Except ToolError String × Toolbox :=
  match readUpdates (textArgument args "updates") with
  | .error e => (.error (.badUpdates e), t)
  | .ok us =>
    let flags := t.registry.accepted us
    let t' := t.withStates us
    match t'.storeStates flags with
    | .error e => (.error (.statesNotSaved e), t')
    | .ok t'' =>
      (.ok ("Applied " ++ decimal flags.length ++ " of " ++ decimal us.length ++ " updates.\n\n" ++
        (Registry.statesJson t''.registry.states).compact), t'')

/-- What a call comes to. -/
def run (t : Toolbox) (now : Instant) (tool : Tool) (args : Arguments) :
    Except ToolError String × Toolbox :=
  match tool with
  | .analyzeSource => t.analyzeSource now args
  | .listRules => (.ok t.listRules, t)
  | .setRules => t.setRules args

/-- The answer of a tool that came to something. -/
def answer : Except ToolError String → ToolAnswer
  | .ok text => { text }
  | .error e => { isError := true, text := e.message }

/-- Calls a tool. -/
def call (t : Toolbox) (now : Instant) (tool : Tool) (args : Arguments) : ToolAnswer × Toolbox :=
  let (outcome, t') := t.run now tool args
  (answer outcome, t')

end Toolbox

end JavaReview
