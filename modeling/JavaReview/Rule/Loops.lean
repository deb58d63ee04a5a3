import JavaReview.Rule
import JavaReview.Rule.Block

/-!
Rules on loops: a loop inside another, and text put together inside a loop. Both follow the lines
with one counter.
-/

namespace JavaReview.Rule

open Text

/-! ## Nested loops -/

/-- What a loop inside another is reported with. -/
def nestedLoopIssue : Issue where
  title := "Nested loop detected"
  description := "Nested loops can cause performance issues on large inputs."
  suggestion := "Consider reducing algorithmic complexity or breaking out loops."
  category := .optimization
  severity := .medium

/-- The depth after a line: a loop header opens one level, and a closing brace ends one if any is
open. -/
def nestedDepth (depth : Nat) (l : Line) : Nat :=
  let opened := if l.hasLoopHeader then depth + 1 else depth
  if l.contains '\x7d' then opened - 1 else opened

/-- The numbers of the lines, counted from `n`, that open a loop inside another. -/
def nestedLoops (depth : Nat) (n : Nat) : List Line → List Nat
  | [] => []
  | l :: r =>
    (if l.hasLoopHeader && depth ≥ 1 then [n] else []) ++ nestedLoops (nestedDepth depth l) (n + 1) r

/-- Loops that are opened while another is open. -/
def nestedLoop : Rule :=
  .ofLines "nested-loop" "Loop headers opened while another loop is still open." fun ls =>
    (nestedLoops 0 1 ls).map fun n => nestedLoopIssue.atLine n

/-! ## Concatenation in loops -/

/-- What text put together in a loop is reported with. -/
def concatInLoopIssue : Issue where
  title := "String concatenation in loop"
  description := "String concatenation inside loops can be inefficient."
  suggestion := "Use StringBuilder or collect results and join afterwards."
  category := .optimization
  severity := .low

/-- A `+=`, or a plus sign and a double quote. -/
def concatenates (l : Line) : Bool :=
  contains ['+', '='] l || (l.contains '+' && l.contains '"')

/-- The depth of the loop that a line stands in. A header starts a loop anew, at its own brace
delta. -/
def loopDepth (depth : Option Int) (l : Line) : Option Int :=
  if l.hasLoopHeader then some l.braceDelta else depth

/-- The depth after a line of a loop. The delta of a header counts once more, so that a header
without a brace ends its loop at once. -/
def depthAfter (depth : Int) (l : Line) : Option Int :=
  if depth + l.braceDelta ≤ 0 then none else some (depth + l.braceDelta)

/-- The numbers of the lines, counted from `n`, that put text together inside a loop. -/
def concatsInLoop (depth : Option Int) (n : Nat) : List Line → List Nat
  | [] => []
  | l :: r =>
    match loopDepth depth l with
    | none => concatsInLoop none (n + 1) r
    | some d => (if concatenates l then [n] else []) ++ concatsInLoop (depthAfter d l) (n + 1) r

/-- Text put together inside a loop body. -/
def concatInLoop : Rule :=
  .ofLines "string-concat-in-loop" "+= or quoted + concatenation inside a loop body." fun ls =>
    (concatsInLoop none 1 ls).map fun n => concatInLoopIssue.atLine n

end JavaReview.Rule
