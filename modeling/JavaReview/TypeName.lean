import JavaReview.Path
import JavaReview.Text.Quoted
import JavaReview.Text.Space

/-!
The type that a source text should declare: named by its file, else by the text itself.
-/

namespace JavaReview.TypeName

open Text

/-- The name for a text that names no type. -/
def inline : String := "InlineClass"

/-- Whether a character can stand in an identifier. -/
def isIdentPart (c : Char) : Bool := c = '_' || c = '$' || isLetter c || isDigit c

/-- The name of a file without its extension `.java`. -/
def ofFilename? (filename : String) : Option String :=
  let base := (Path.base filename).toList
  if ".java".toList.isSuffixOf base then
    let stem := dropEnd ".java".toList base
    if (trim stem).isEmpty then none else some (String.ofList stem)
  else none

/-- The text after the first occurrence of `needle`. -/
def afterText? (needle : List Char) : List Char → Option (List Char)
  | [] => if needle.isEmpty then some [] else none
  | c :: r =>
    match eat? needle (c :: r) with
    | some t => some t
    | none => afterText? needle r

/-- The identifier after the first `class` of a text. -/
def ofSource? (source : String) : Option String := do
  let rest ← afterText? "class ".toList source.toList
  let name := rest.takeWhile isIdentPart
  if name.isEmpty then none else some (String.ofList name)

/-- The type that a text should declare. -/
def primary (filename source : String) : String :=
  ((ofFilename? filename) <|> (ofSource? source)).getD inline

end JavaReview.TypeName
