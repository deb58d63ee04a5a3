import JavaReview.Review
import JavaReview.Text.Search

/-!
Waivers: decisions to accept certain findings. A waiver names a rule, and may be limited to a file
and to findings whose texts hold a pattern.
-/

namespace JavaReview

/-- A decision to accept findings. -/
structure Waiver where
  id : Int := 0
  rule : String := ""
  filename : String := ""
  pattern : String := ""
  reason : String := ""
  expiresAt : Timestamp := .zero
  createdBy : String := ""
  createdAt : Timestamp := .zero
  revokedAt : Option Timestamp := none
deriving DecidableEq, Repr

namespace Waiver

/-- Whether two names are equal up to case and white space around them. -/
def sameName (a b : String) : Bool := Text.equalFold (Text.trim a.toList) (Text.trim b.toList)

/-- Whether a text holds a pattern, up to case. -/
def holds (text pattern : String) : Bool :=
  Text.contains (pattern.toList.map Text.upper) (text.toList.map Text.upper)

/-- Whether the waiver accepts a finding in a file. -/
def covers (w : Waiver) (filename : String) (f : Finding) : Bool :=
  sameName f.rule w.rule &&
    (w.filename == "" || sameName filename w.filename) &&
    (w.pattern == "" || holds f.title w.pattern || holds f.description w.pattern)

/-- Whether one of the waivers accepts a finding. -/
def anyCovers (ws : List Waiver) (filename : String) (f : Finding) : Bool :=
  ws.any (·.covers filename f)

/-- The findings that no waiver accepts. -/
def keep (ws : List Waiver) (filename : String) (fs : List Finding) : List Finding :=
  fs.filter fun f => !anyCovers ws filename f

/-- The number of findings that a waiver accepts. -/
def waivedCount (ws : List Waiver) (filename : String) (fs : List Finding) : Nat :=
  fs.countP (anyCovers ws filename)

/-- What waivers leave of a list of findings. A list is left as it is if it is empty or there are no
waivers, and there is no list if nothing is left. -/
def applyTo (ws : List Waiver) (filename : String) (issues : Option (List Finding)) :
    Option (List Finding) :=
  if ws.isEmpty || (issues.getD []).isEmpty then issues
  else
    match keep ws filename (issues.getD []) with
    | [] => none
    | fs => some fs

end Waiver

namespace Review

/-- The number of findings of a review that waivers accept. -/
def waived (r : Review) (ws : List Waiver) : Nat := Waiver.waivedCount ws r.filename r.findings

/-- The review without the findings that waivers accept. -/
def applyWaivers (r : Review) (ws : List Waiver) : Review :=
  if r.waived ws = 0 then r else r.withIssues (Waiver.applyTo ws r.filename r.issues)

end Review

end JavaReview
