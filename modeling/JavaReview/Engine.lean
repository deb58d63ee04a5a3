import JavaReview.Diagnostic
import JavaReview.Registry
import JavaReview.Review
import JavaReview.Source.Load
import JavaReview.TypeName

/-!
The analysis engine. A run takes the rules that are on, applies them in the order of registration and
adds the findings of the compiler; each rule contributes one contiguous segment of the findings.
-/

namespace JavaReview

/-- What an analysis is made with. -/
structure Engine where
  registry : Registry
  compiler : Option Compiler := none
  /-- Whether a failing rule is reported as a finding instead of ending the run. -/
  isolateFaults : Bool := false

/-- Why an analysis gave no review. -/
inductive AnalysisError where
  | cancelled
  | ruleFailed (rule : String) (fault : Fault)
deriving DecidableEq, Repr

namespace AnalysisError

/-- The text of an error. -/
def message : AnalysisError → String
  | cancelled => "context canceled"
  | ruleFailed rule fault => "rule " ++ quoted rule ++ " failed: " ++ fault.text

end AnalysisError

namespace Engine

/-- The finding that stands for a failing rule. -/
def failureFinding (rule : String) (fault : Fault) : Finding where
  rule := rule
  title := "Rule failed"
  description := (AnalysisError.ruleFailed rule fault).message
  suggestion := "Report the input that triggers this failure or disable the rule."
  category := .warning
  severity := .low

/-- What a rule contributes to the findings. -/
def segment (isolate : Bool) (ctx : Context) (r : Rule) : Except AnalysisError (List Finding) :=
  match r.apply ctx with
  | .ok fs => .ok fs
  | .error fault =>
    if isolate then .ok [failureFinding r.name fault] else .error (.ruleFailed r.name fault)

/-- What the rules contribute, in order, up to the first that ends the run. -/
def segments (isolate : Bool) (ctx : Context) : List Rule → Except AnalysisError (List (List Finding))
  | [] => .ok []
  | r :: rs =>
    match segment isolate ctx r with
    | .error e => .error e
    | .ok fs =>
      match segments isolate ctx rs with
      | .error e => .error e
      | .ok rest => .ok (fs :: rest)

/-- The findings of a run with the given rules. -/
def run (isolate : Bool) (compiler : Option Compiler) (rules : List Rule) (source filename : String) :
    Except AnalysisError (List Finding) :=
  (segments isolate (.ofSource source (Review.filenameOr filename)) rules).map fun ss =>
    ss.flatten ++ Diagnostic.findings compiler source (TypeName.primary filename source)

/-- The review of a source text with the findings of a run at the instant `now`. -/
def review (now : Instant) (source filename : String) (fs : List Finding) : Review :=
  Review.withIssues
    { filename := Review.filenameOr filename
      source := source
      createdAt := .utc now
      version := Review.formatVersion }
    (some fs)

/-- The review of a source text, made at the instant `now`. A run that was cancelled before it
started ends at its first rule. -/
def analyze (e : Engine) (now : Instant) (cancelled : Bool) (source filename : String) :
    Except AnalysisError Review :=
  if cancelled && !e.registry.enabledRules.isEmpty then .error .cancelled
  else
    (run e.isolateFaults e.compiler e.registry.enabledRules source filename).map
      (review now source filename)

/-- The reviews of source files, in order, or the error of the first that fails. -/
def analyzeAll (e : Engine) (now : Instant) (cancelled : Bool) :
    List Source.CompilationUnit → Except AnalysisError (List Review)
  | [] => .ok []
  | u :: us =>
    match e.analyze now cancelled u.text u.name with
    | .error err => .error err
    | .ok r => (analyzeAll e now cancelled us).map (r :: ·)

end Engine

/-- What of an engine does not depend on its rules. -/
structure Analyzer where
  compiler : Option Compiler := none
  isolateFaults : Bool := false

/-- The engine with the rules of a registry. -/
def Analyzer.engine (a : Analyzer) (r : Registry) : Engine :=
  { registry := r, compiler := a.compiler, isolateFaults := a.isolateFaults }

end JavaReview
