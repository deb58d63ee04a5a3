import JavaReview.Finding
import JavaReview.Text.Bytes
import JavaReview.Text.Search

/-!
Findings of a compiler. They always count as errors of high severity, whatever the compiler says
about them.
-/

namespace JavaReview

/-- Why a compiler gave no findings. -/
inductive CompilerFailure where
  | unavailable
  | failed (text : String)
deriving DecidableEq, Repr

/-- A compiler: it is given the source text and the name of the type that the text should declare. -/
abbrev Compiler := String → String → Except CompilerFailure (List Finding)

namespace Diagnostic

/-- The rule that compiler findings are reported under. -/
def ruleName : String := "compiler"

/-- A compiler that is not there. -/
def unavailable : Compiler := fun _ _ => .error .unavailable

/-- A finding of a compiler as it is reported. -/
def normalize (f : Finding) : Finding :=
  ({ f with category := .error, severity := .high }).stamp ruleName

/-- What a compiler adds to a review. A compiler that fails adds nothing. -/
def findings (compiler : Option Compiler) (source typeName : String) : List Finding :=
  match compiler with
  | none => []
  | some c =>
    match c source typeName with
    | .error _ => []
    | .ok fs => fs.map normalize

/-- The finding for an error at a line. -/
def compileError (line : Int) (message : String) : Finding where
  rule := ruleName
  line := max line 0
  title := "Compile error"
  description := message
  suggestion := "Fix the compilation error reported by the Java compiler."
  category := .error
  severity := .high

/-- The longest snippet of source text in a message, in bytes. -/
def maxSnippetBytes : Nat := 40

/-- The first line of a text, shortened for a message. -/
def snippet (s : String) : String :=
  let t := Text.trim s.toList
  let t := if t.contains '\n' then Text.trim (Text.before ['\n'] t) else t
  if Text.byteLength t > maxSnippetBytes then
    String.ofList (Text.takeBytes maxSnippetBytes t ++ ['.', '.', '.'])
  else String.ofList t

end Diagnostic

end JavaReview
