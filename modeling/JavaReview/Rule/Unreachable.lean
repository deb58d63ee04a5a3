import JavaReview.Rule
import JavaReview.Rule.Block

/-!
Statements after an exit. One flag tells whether an exit was just seen, whatever the nesting, so the
rule can report too much and too little in nested blocks.
-/

namespace JavaReview.Rule

open Text

/-- What a statement after an exit is reported with. -/
def unreachableIssue : Issue where
  title := "Unreachable code after control-flow exit"
  description := "Statements after return/throw/break/continue in the same block are unreachable."
  suggestion := "Remove or refactor unreachable statements."
  category := .warning
  severity := .medium

/-- Whether a trimmed line leaves its block. -/
def isExit (t : Line) : Bool :=
  "return".toList.isPrefixOf t || "throw ".toList.isPrefixOf t || "break".toList.isPrefixOf t ||
    "continue".toList.isPrefixOf t

/-- Whether a trimmed line is a label of a switch. -/
def isCaseLabel (t : Line) : Bool :=
  "case ".toList.isPrefixOf t || "default:".toList.isPrefixOf t

/-- Whether a trimmed line can be reported, given the balance of braces after it. -/
def isCandidate (balance : Int) (t : Line) : Bool :=
  balance ≥ 0 && !t.isEmpty && t.head? != some '\x7d' && !isCaseLabel t

/-- The flag after a trimmed line, given the flag after reporting. -/
def exitSeen (seen : Bool) (t : Line) : Bool :=
  if isExit t then true
  else if ['\x7d'].isSuffixOf t || isCaseLabel t then false
  else seen

/-- The numbers of the lines, counted from `n`, that follow an exit. -/
def unreachableLines (seen : Bool) (balance : Int) (n : Nat) : List Line → List Nat
  | [] => []
  | raw :: r =>
    let t := trim raw
    let balance := balance + Line.braceDelta t
    let hit := seen && isCandidate balance t
    (if hit then [n] else []) ++ unreachableLines (exitSeen (seen && !hit) t) balance (n + 1) r

/-- The first statement after an exit. -/
def unreachableAfterReturn : Rule :=
  .ofLines "unreachable-after-return" "First statement following return, throw, break or continue."
    fun ls => (unreachableLines false 0 1 ls).map fun n => unreachableIssue.atLine n

end JavaReview.Rule
