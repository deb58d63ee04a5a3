import JavaReview.Text.Case
import JavaReview.Text.Space

/-!
Findings: what a rule reports about a source text. Categories and severities are names; the ones that
rules report with are listed, and any other name may still stand in a finding that was read from
outside.
-/

namespace JavaReview

/-- The kind of a finding. -/
structure Category where
  name : String
deriving DecidableEq, Repr

namespace Category

/-- The code is wrong. -/
def error : Category := ⟨"ERROR"⟩

/-- The code is suspect. -/
def warning : Category := ⟨"WARNING"⟩

/-- The code could be better. -/
def optimization : Category := ⟨"OPTIMIZATION"⟩

/-- The code is open to attack. -/
def security : Category := ⟨"SECURITY"⟩

/-- The categories that rules report with, in the order of reports. -/
def known : List Category := [error, warning, optimization, security]

/-- The known category that a text names, in any case and with white space around it. -/
def parse? (s : String) : Option Category :=
  let c : Category := ⟨uppercase (trimmed s)⟩
  if c ∈ known then some c else none

end Category

/-- How much a finding matters. -/
structure Severity where
  name : String
deriving DecidableEq, Repr

namespace Severity

/-- Can wait. -/
def low : Severity := ⟨"LOW"⟩

/-- Should be looked at. -/
def medium : Severity := ⟨"MEDIUM"⟩

/-- Has to be fixed. -/
def high : Severity := ⟨"HIGH"⟩

/-- The severities that rules report with. -/
def known : List Severity := [low, medium, high]

/-- The known severity that a text names, in any case and with white space around it. -/
def parse? (s : String) : Option Severity :=
  let v : Severity := ⟨uppercase (trimmed s)⟩
  if v ∈ known then some v else none

end Severity

/-- One reported issue. Line 0 stands for the whole file, and id 0 for a finding that is not
stored. -/
structure Finding where
  id : Int := 0
  rule : String := ""
  line : Int := 0
  title : String := ""
  description : String := ""
  suggestion : String := ""
  category : Category := ⟨""⟩
  severity : Severity := ⟨""⟩
deriving DecidableEq, Repr

namespace Finding

/-- The finding under the name of the rule that made it, unless it has a rule already. -/
def stamp (name : String) (f : Finding) : Finding :=
  if f.rule = "" then { f with rule := name } else f

end Finding

end JavaReview
