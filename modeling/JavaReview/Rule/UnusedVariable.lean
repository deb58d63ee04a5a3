import JavaReview.Rule
import JavaReview.Rule.Block

/-!
Local variables that no other line names. A declaration is recognised by its shape alone: blanks, an
optional `final`, a type, blanks, the declarators, and a semicolon that ends the line.
-/

namespace JavaReview.Rule

open Text

/-! ## Words -/

/-- ASCII letters, digits and the underscore. -/
def isWordChar (c : Char) : Bool := c.isAlphanum || c = '_'

/-- Whether a word starts or ends between two neighbours. -/
def wordBoundary (a b : Option Char) : Bool := a.any isWordChar != b.any isWordChar

/-- Whether the text holds the name between two word boundaries; `prev` stands before the text. -/
def hasWordFrom (name : List Char) (prev : Option Char) (s : List Char) : Bool :=
  (wordBoundary prev s.head? &&
    match eat? name s with
    | none => false
    | some r => wordBoundary (name.getLast?.or prev) r.head?) ||
  match s with
  | [] => false
  | c :: r => hasWordFrom name (some c) r

/-- Whether the text holds the name between two word boundaries. -/
def hasWord (name : List Char) (s : List Char) : Bool := hasWordFrom name none s

/-! ## The shape of a declaration -/

/-- The names of built-in types, and `var`. -/
def typeKeywords : List (List Char) :=
  ["byte".toList, "short".toList, "int".toList, "long".toList, "float".toList, "double".toList,
    "boolean".toList, "char".toList, "String".toList, "var".toList]

/-- What may follow the first letter of a type. -/
def isTypeChar (c : Char) : Bool :=
  c.isAlphanum || c = '_' || c = '<' || c = '>' || c = '[' || c = ']' || c = '?' || c = ',' ||
    c = '.' || isBlank c

/-- What follows one or more blanks, as many as leave something to follow. -/
def afterBlanks? : List Char → Option (List Char)
  | [] => none
  | c :: r =>
    if isBlank c then
      match afterBlanks? r with
      | some t => some t
      | none => if r.isEmpty then none else some r
    else none

/-- What follows the rest of a type and blanks, the longest type being preferred. -/
def afterTypeName? : List Char → Option (List Char)
  | [] => none
  | c :: r =>
    if isTypeChar c then
      match afterTypeName? r with
      | some t => some t
      | none => afterBlanks? r
    else none

/-- What follows a pair of brackets, with blanks before and in it. -/
def afterBrackets? (s : List Char) : Option (List Char) := do
  let r ← eat? ['['] (skipBlanks s)
  eat? [']'] (skipBlanks r)

/-- What follows pairs of brackets and blanks, as many pairs as leave blanks to follow. A pair takes
two characters at least, so the length of the text bounds their number. -/
def afterDimensions? (bound : Nat) (s : List Char) : Option (List Char) :=
  match bound with
  | 0 => afterBlanks? s
  | bound + 1 =>
    match (afterBrackets? s).bind (afterDimensions? bound) with
    | some t => some t
    | none => afterBlanks? s

/-- What follows a type keyword, its brackets and blanks. -/
def afterKeyword? (s : List Char) : Option (List Char) :=
  (typeKeywords.findSome? fun k =>
    (eat? k s).filter fun r => !r.head?.any isWordChar).bind fun r => afterDimensions? r.length r

/-- What follows a type that starts with a capital letter, and blanks. -/
def afterNamedType? : List Char → Option (List Char)
  | [] => none
  | c :: r => if c.isUpper then afterTypeName? r else none

/-- The text after `final` and blanks, or all of it. -/
def skipFinal (s : List Char) : List Char :=
  match eat? "final".toList s with
  | some (c :: r) => if isBlank c then skipBlanks r else s
  | _ => s

/-- The text before the semicolon that ends a line. -/
def beforeSemicolon? (s : List Char) : Option (List Char) :=
  match s.reverse.dropWhile isBlank with
  | ';' :: r => some r.reverse
  | _ => none

/-- The declarators of a line that has the shape of a declaration. -/
def declarators? (l : Line) : Option (List Char) := do
  let body ← beforeSemicolon? l
  let s := skipFinal (skipBlanks body)
  afterKeyword? s <|> afterNamedType? s

/-! ## Declared names -/

/-- Whether a character may start a name. -/
def isNameStart (c : Char) : Bool := c.isAlpha || c = '_' || c = '$'

/-- Whether a character may stand in a name. -/
def isNamePart (c : Char) : Bool := c.isAlphanum || c = '_' || c = '$'

/-- Whether the text is a name. -/
def isName : List Char → Bool
  | [] => false
  | c :: r => isNameStart c && r.all isNamePart

/-- A blank in place of a bracket. -/
def blankBracket (c : Char) : Char := if c = '[' || c = ']' then ' ' else c

/-- The name that a declarator declares: the last word before its initialiser, brackets apart. -/
def declaredName? (part : List Char) : Option (List Char) :=
  ((words ((before ['='] part).map blankBracket)).getLast?).filter isName

/-- The names that a list of declarators declares. -/
def declaredNames (list : List Char) : List (List Char) := (splitOn ',' list).filterMap declaredName?

/-- How lines start that declare no local variable. -/
def nonLocalStarts : List (List Char) :=
  ["import ".toList, "package ".toList, "class ".toList, "interface ".toList, "enum ".toList,
    "public ".toList, "private ".toList, "protected ".toList, "@".toList, "for ".toList,
    "for(".toList, "catch ".toList, "catch(".toList]

/-- The names that a line declares. -/
def namesDeclaredOn (l : Line) : List (List Char) :=
  if nonLocalStarts.any (·.isPrefixOf l.statement) then []
  else
    match declarators? l.code with
    | none => []
    | some list => declaredNames list

/-- A variable and the position of the line that declares it. -/
structure Declared where
  name : List Char
  pos : Nat
deriving DecidableEq

/-- The declared variables without those whose name was declared before; `seen` are the names
before the first. -/
def firstDeclarations (seen : List (List Char)) : List Declared → List Declared
  | [] => []
  | d :: r =>
    if d.name ∈ seen then firstDeclarations seen r else d :: firstDeclarations (d.name :: seen) r

/-- Every declaration of the lines, in order. -/
def declarations (ls : List Line) : List Declared :=
  ls.zipIdx.flatMap fun (l, i) => (namesDeclaredOn l).map (⟨·, i⟩)

/-- Whether a line other than the declaring one names the variable. -/
def isUsed (ls : List Line) (d : Declared) : Bool :=
  ls.zipIdx.any fun (l, i) => i != d.pos && hasWord d.name l.code

/-- What a variable without use is reported with. -/
def unusedVariableIssue (name : List Char) : Issue where
  title := "Unused local variable"
  description := "The local variable '" ++ String.ofList name ++ "' does not appear to be used."
  suggestion := "Remove the variable or use it."
  category := .warning
  severity := .low

/-- Variables that no other line names. -/
def unusedVariables (ls : List Line) : List Declared :=
  (firstDeclarations [] (declarations ls)).filter fun d => !isUsed ls d

/-- Local declarations without a use. -/
def unusedVariable : Rule :=
  .ofLines "unused-local-variable" "Local declarations whose name never appears on another line."
    fun ls => (unusedVariables ls).map fun d => (unusedVariableIssue d.name).atLine (d.pos + 1)

end JavaReview.Rule
