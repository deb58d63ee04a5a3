import JavaReview.Rule.InfiniteLoop
import JavaReview.Rule.LineRules
import JavaReview.Rule.Loops
import JavaReview.Rule.Unreachable
import JavaReview.Rule.UnusedImport
import JavaReview.Rule.UnusedVariable

/-!
The rules that are always there, in the order in which they are registered.
-/

namespace JavaReview.Rule

/-- The built-in rules. -/
def builtins : List Rule :=
  [todoComment, consoleLogging, sqlConcatenation, longLine, unmatchedBraces, emptyCatch,
    hardcodedSecret, nestedLoop, concatInLoop, unreachableAfterReturn, infiniteLoop, unusedVariable,
    unusedImport]

/-- The built-in rule of a name. -/
def builtin? (name : String) : Option Rule := builtins.find? (·.name == name)

end JavaReview.Rule
