import JavaReview.File.Tree
import JavaReview.Pattern.Matcher
import JavaReview.Registry
import JavaReview.Yaml.Expansion

/-!
Rule packs: rules that are written as patterns in a YAML file. Every rule of a pack is checked before
any is registered, so a pack with a bad rule changes nothing; a name that is taken stops the
registration there.
-/

namespace JavaReview

/-- A rule as a pack writes it. -/
structure PatternSource where
  name : String := ""
  summary : String := ""
  pattern : String := ""
  exclude : String := ""
  ignoreCase : Bool := false
  skipComments : Bool := false
  category : String := ""
  severity : String := ""
  title : String := ""
  description : String := ""
  suggestion : String := ""
  disabled : Bool := false
deriving DecidableEq, Repr

/-- Why a rule of a pack is bad. -/
inductive PatternFault where
  | incomplete
  | unknownCategory (name : String)
  | unknownSeverity (name : String)
  | badPattern (e : Pattern.Error)
  | badExclude (e : Pattern.Error)

namespace PatternFault

/-- The text of a fault. -/
def message : PatternFault → String
  | incomplete => "missing required fields (name/pattern/title/category/severity)"
  | unknownCategory name => "unknown category " ++ quoted name
  | unknownSeverity name => "unknown severity " ++ quoted name
  | badPattern e => "pattern: " ++ e.message
  | badExclude e => "exclude: " ++ e.message

end PatternFault

/-- Why a pack was not registered, or not all of it. -/
inductive PackError where
  | unreadable (e : FileError)
  | malformed (e : Yaml.Error)
  | badRule (name : String) (fault : PatternFault)
  | refused (e : RegisterError)
  | inFile (path : String) (e : PackError)

namespace PackError

/-- The text of an error. -/
def message : PackError → String
  | unreadable e => "read rules pack: " ++ e.message
  | malformed e => "parse yaml: " ++ e.message
  | badRule name fault => "compile rule " ++ quoted name ++ ": " ++ fault.message
  | refused e => e.message
  | inFile path e => path ++ ": " ++ e.message

end PackError

namespace PatternSource

/-- Reads a rule of a pack; a null is none. -/
def ofPlace? (p : Yaml.Place) : Yaml.Result (Option PatternSource) := do
  if ← p.isNull then return none
  else
    let fs ← p.fields
    let text (name : String) := fs.get name Yaml.Place.text? ""
    let flag (name : String) := fs.get name Yaml.Place.flag? false
    return some
      { name := ← text "name"
        summary := ← text "summary"
        pattern := ← text "pattern"
        exclude := ← text "exclude"
        ignoreCase := ← flag "ignore_case"
        skipComments := ← flag "skip_comments"
        category := ← text "category"
        severity := ← text "severity"
        title := ← text "title"
        description := ← text "description"
        suggestion := ← text "suggestion"
        disabled := ← flag "disabled" }

/-- Whether all that a rule needs is there. -/
def isComplete (s : PatternSource) : Bool :=
  s.name ≠ "" && s.pattern ≠ "" && s.title ≠ "" && s.category ≠ "" && s.severity ≠ ""

/-- The pattern that a text writes under the rule's option for case. -/
def parse (s : PatternSource) (text : String) : Except Pattern.Error Pattern.Matcher :=
  Pattern.Matcher.ofText ((if s.ignoreCase then "(?i)".toList else []) ++ text.toList)

/-- The part of a line that a rule looks at. -/
def visible (s : PatternSource) (line : Line) : Line :=
  if s.skipComments then Text.before ['/', '/'] line else line

/-- The rule that reports an issue on every line that a pattern matches and another, if there is one,
does not. -/
def toRule (s : PatternSource) (issue : Issue) (pattern : Pattern.Matcher)
    (exclude : Option Pattern.Matcher) : Rule :=
  .ofLines s.name s.summary <| issue.onLines fun line =>
    pattern.findsIn (s.visible line) && !exclude.any (·.findsIn (s.visible line))

/-- The rule that a pack writes. -/
def compile (s : PatternSource) : Except PatternFault Rule := do
  if !s.isComplete then throw .incomplete
  let some category := Category.parse? s.category | throw (.unknownCategory s.category)
  let some severity := Severity.parse? s.severity | throw (.unknownSeverity s.severity)
  let issue : Issue :=
    { title := s.title, description := s.description, suggestion := s.suggestion, category, severity }
  let pattern ← (s.parse s.pattern).mapError .badPattern
  if s.exclude = "" then return s.toRule issue pattern none
  else
    let exclude ← (s.parse s.exclude).mapError .badExclude
    return s.toRule issue pattern (some exclude)

/-- The entry that a rule of a pack is registered as. -/
def entry (s : PatternSource) : Except PackError RuleEntry :=
  match s.compile with
  | .ok rule => .ok ⟨rule, !s.disabled⟩
  | .error fault => .error (.badRule s.name fault)

end PatternSource

namespace RulePack

/-- What a pack is read as. -/
def shape : Yaml.Shape :=
  .record [("rules", .list (.ofNames
    ["name", "summary", "pattern", "exclude", "ignore_case", "skip_comments", "category", "severity",
      "title", "description", "suggestion", "disabled"]))]

/-- The rules that a YAML text writes. -/
def sources (text : String) : Yaml.Result (List PatternSource) := do
  match ← Yaml.parse text.toList with
  | none => return []
  | some document =>
    document.checkAliases shape
    let fs ← document.start.fields
    return (← fs.get "rules" (Yaml.Place.list? PatternSource.ofPlace?) none).getD []

/-- The entries that a YAML text writes, all of them checked. -/
def entries (text : String) : Except PackError (List RuleEntry) := do
  let ss ← (sources text).mapError .malformed
  ss.mapM (·.entry)

/-- Registers the rules of a pack: the registry then, how many were registered, and what stopped the
registration. -/
def register (r : Registry) (text : String) : Registry × Nat × Option PackError :=
  match entries text with
  | .error e => (r, 0, some e)
  | .ok es =>
    let (r', n, err) := r.registerAll es
    (r', n, err.map .refused)

/-- Registers the pack of a file. -/
def load (r : Registry) (tree : FileTree) (path : String) : Registry × Nat × Option PackError :=
  match tree.read path with
  | .error e => (r, 0, some (.unreadable e))
  | .ok text =>
    let (r', n, err) := register r text
    (r', n, err.map (.inFile path))

end RulePack

end JavaReview
