import JavaReview.Finding
import JavaReview.Source.Lines
import JavaReview.Text.Quoted

/-!
Rules: named detectors that look at one source text. A rule is a function of what it is shown, and
may fail instead of reporting.
-/

namespace JavaReview

/-- What a rule is shown: the text, its lines and the name under which it is reviewed. -/
structure Context where
  source : List Char
  lines : List Line
  filename : String

namespace Context

/-- The context of a source text. -/
def ofSource (source filename : String) : Context where
  source := source.toList
  lines := Source.lines source.toList
  filename := filename

end Context

/-- Why a rule failed: with an error of its own, or with any other value. -/
inductive Fault where
  | error (text : String)
  | value (text : String)
deriving DecidableEq, Repr

namespace Fault

/-- The text of a fault. -/
def text : Fault → String
  | error t => t
  | value t => t

/-- Whether the fault is an error. -/
def isError : Fault → Bool
  | error _ => true
  | value _ => false

end Fault

/-- A named detector. -/
structure Rule where
  name : String
  summary : String
  check : Context → Except Fault (List Finding)

namespace Rule

/-- The findings of a rule, each under the rule's name unless it has another. -/
def apply (r : Rule) (ctx : Context) : Except Fault (List Finding) :=
  (r.check ctx).map (·.map (·.stamp r.name))

/-- A rule that never fails. -/
def ofLines (name summary : String) (eval : List Line → List Finding) : Rule where
  name := name
  summary := summary
  check ctx := .ok (eval ctx.lines)

end Rule

/-- The fixed part of a rule's findings. -/
structure Issue where
  title : String
  description : String
  suggestion : String
  category : Category
  severity : Severity

namespace Issue

/-- The finding of an issue at a line. -/
def atLine (t : Issue) (line : Nat) : Finding where
  line := line
  title := t.title
  description := t.description
  suggestion := t.suggestion
  category := t.category
  severity := t.severity

/-- A finding at every line that fits, lines being counted from 1. -/
def onLines (t : Issue) (fits : Line → Bool) (ls : List Line) : List Finding :=
  (ls.zipIdx 1).filterMap fun (l, n) => if fits l then some (t.atLine n) else none

end Issue

end JavaReview
