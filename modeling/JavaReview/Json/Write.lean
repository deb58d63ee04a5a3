import JavaReview.Json.Value
import JavaReview.Text.Decimal
import JavaReview.Text.Quoted

/-!
Writing JSON. Characters that could end a script element or a line are written as escapes, so the
text can stand inside an HTML page. The compact form has no blanks; the indented form puts every
item and field on a line of its own.
-/

namespace JavaReview.Json

/-- `\u` and four hexadecimal digits. -/
def unicodeEscape (n : Nat) : List Char := '\\' :: 'u' :: Text.hexDigits 4 n

/-- A character as it stands in a written text. -/
def escapeChar (c : Char) : List Char :=
  let n := c.toNat
  if c = '"' then ['\\', '"']
  else if c = '\\' then ['\\', '\\']
  else if n = 0x08 then ['\\', 'b']
  else if n = 0x0C then ['\\', 'f']
  else if n = 0x0A then ['\\', 'n']
  else if n = 0x0D then ['\\', 'r']
  else if n = 0x09 then ['\\', 't']
  else if n < 0x20 || c = '<' || c = '>' || c = '&' || n = 0x2028 || n = 0x2029 then unicodeEscape n
  else [c]

/-- A text between double quotes. -/
def writeText (s : String) : List Char := '"' :: s.toList.flatMap escapeChar ++ ['"']

mutual

/-- A value without blanks. -/
def write : Json → List Char
  | .null => ['n', 'u', 'l', 'l']
  | .bool true => ['t', 'r', 'u', 'e']
  | .bool false => ['f', 'a', 'l', 's', 'e']
  | .int n => decimalChars n
  | .real t => t.toList
  | .str s => writeText s
  | .arr items => '[' :: writeItems items ++ [']']
  | .obj fields => '\x7b' :: writeFields fields ++ ['\x7d']

/-- The items of an array, with commas between them. -/
def writeItems : List Json → List Char
  | [] => []
  | [v] => write v
  | v :: w :: r => write v ++ ',' :: writeItems (w :: r)

/-- The fields of an object, with commas between them. -/
def writeFields : List (String × Json) → List Char
  | [] => []
  | [(k, v)] => writeText k ++ ':' :: write v
  | (k, v) :: f :: r => writeText k ++ ':' :: write v ++ ',' :: writeFields (f :: r)

end

/-- A line break and the indentation of the given depth. -/
def newline (depth : Nat) : List Char := '\n' :: List.replicate (2 * depth) ' '

mutual

/-- A value whose closing bracket stands at the given depth. -/
def writeIndented (depth : Nat) : Json → List Char
  | .arr [] => ['[', ']']
  | .arr (v :: r) =>
    '[' :: newline (depth + 1) ++ writeIndentedItems (depth + 1) (v :: r) ++ newline depth ++ [']']
  | .obj [] => ['\x7b', '\x7d']
  | .obj (f :: r) =>
    '\x7b' :: newline (depth + 1) ++ writeIndentedFields (depth + 1) (f :: r) ++ newline depth ++
      ['\x7d']
  | .null => write .null
  | .bool b => write (.bool b)
  | .int n => write (.int n)
  | .real t => write (.real t)
  | .str s => write (.str s)

/-- The items of an array, one on a line. -/
def writeIndentedItems (depth : Nat) : List Json → List Char
  | [] => []
  | [v] => writeIndented depth v
  | v :: w :: r => writeIndented depth v ++ ',' :: newline depth ++ writeIndentedItems depth (w :: r)

/-- The fields of an object, one on a line. -/
def writeIndentedFields (depth : Nat) : List (String × Json) → List Char
  | [] => []
  | [(k, v)] => writeText k ++ ':' :: ' ' :: writeIndented depth v
  | (k, v) :: f :: r =>
    writeText k ++ ':' :: ' ' :: writeIndented depth v ++ ',' :: newline depth ++
      writeIndentedFields depth (f :: r)

end

/-- The compact text of a value. -/
def compact (v : Json) : String := String.ofList v.write

/-- The text of a value with two blanks of indentation for each level. -/
def pretty (v : Json) : String := String.ofList (v.writeIndented 0)

end JavaReview.Json
