import JavaReview.Rule
import JavaReview.Rule.Block

/-!
Imports whose simple name stands nowhere outside the imports.
-/

namespace JavaReview.Rule

open Text

/-- Whether a trimmed line is an import. -/
def isImport (t : Line) : Bool := "import ".toList.isPrefixOf t

/-- The qualified name of a single-type import. -/
def importedName? (t : Line) : Option (List Char) :=
  if isImport t && [';'].isSuffixOf t && !t.contains '*' then
    let name := trim (dropEnd [';'] (dropStart "import ".toList t))
    some (trim (dropStart "static ".toList name))
  else none

/-- The last component of a qualified name. -/
def simpleName (qualified : List Char) : List Char := (afterLast? '.' qualified).getD qualified

/-- The trimmed lines that are no imports, each with its line end. -/
def importBody (ls : List Line) : List Char :=
  ((ls.map trim).filter fun t => !isImport t).flatMap (· ++ ['\n'])

/-- Whether an import is needed: its simple name is empty or stands in the body. -/
def isImportUsed (body qualified : List Char) : Bool :=
  (simpleName qualified).isEmpty || contains (simpleName qualified) body

/-- What an import without use is reported with. -/
def unusedImportIssue (qualified : List Char) : Issue where
  title := "Unused import"
  description := "The import '" ++ String.ofList qualified ++ "' does not appear to be used."
  suggestion := "Remove the unused import."
  category := .warning
  severity := .low

/-- The imports without use and the positions of their lines. -/
def unusedImports (ls : List Line) : List (List Char × Nat) :=
  ls.zipIdx.filterMap fun (l, i) =>
    match importedName? (trim l) with
    | none => none
    | some q => if isImportUsed (importBody ls) q then none else some (q, i)

/-- Single-type imports without a use. -/
def unusedImport : Rule :=
  .ofLines "unused-import" "Single-type imports whose simple name is absent from the body."
    fun ls => (unusedImports ls).map fun (q, i) => (unusedImportIssue q).atLine (i + 1)

end JavaReview.Rule
