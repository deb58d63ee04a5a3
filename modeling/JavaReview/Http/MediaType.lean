import JavaReview.Http.Cookie
import JavaReview.Http.Target
import JavaReview.Text.Case
import JavaReview.Text.Space

/-!
Values of header fields with parameters, as in `form-data; name="file"; filename="A.java"`.
-/

namespace JavaReview.Http

/-- A value and its parameters. -/
structure MediaType where
  name : String
  params : List (String × String)

namespace MediaType

/-- The characters that may stand in a quoted text only, and those that a backslash escapes there. -/
def isSpecial (c : Char) : Bool := "()<>@,;:\\\"/[]?=".toList.contains c

/-- The characters of a token. -/
def isTokenChar (c : Char) : Bool := 0x20 < c.toNat && c.toNat < 0x7F && !isSpecial c

/-- A token, which may be empty, and what follows it. -/
def takeToken (s : List Char) : List Char × List Char := (s.takeWhile isTokenChar, s.dropWhile isTokenChar)

/-- Whether a text is a token, or two of them with a slash between. -/
def isName (s : List Char) : Bool :=
  match takeToken s with
  | ([], _) => false
  | (_, []) => true
  | (_, '/' :: r) => !r.isEmpty && r.all isTokenChar
  | _ => false

/-- The rest of a quoted text and what follows its closing quote. A backslash that escapes nothing
special stands for itself. -/
def takeQuoted : List Char → Option (List Char × List Char)
  | [] => none
  | '"' :: r => some ([], r)
  | '\\' :: c :: r =>
    if isSpecial c then (takeQuoted r).map fun (s, rest) => (c :: s, rest)
    else (takeQuoted (c :: r)).map fun (s, rest) => ('\\' :: s, rest)
  | c :: r =>
    if c = '\r' || c = '\n' then none else (takeQuoted r).map fun (s, rest) => (c :: s, rest)

/-- The value of a parameter: a token or a quoted text. -/
def takeValue (s : List Char) : Option (List Char × List Char) :=
  match s with
  | '"' :: r => takeQuoted r
  | _ =>
    match takeToken s with
    | ([], _) => none
    | found => some found

/-- One parameter after a semicolon, and what follows it. -/
def takeParam? (s : List Char) : Option ((String × String) × List Char) := do
  let s ← Text.eat? [';'] (Text.trimLeft s)
  let (name, s) := takeToken (Text.trimLeft s)
  if name.isEmpty then none
  else
    let s ← Text.eat? ['='] (Text.trimLeft s)
    let (value, s) ← takeValue (Text.trimLeft s)
    return ((lowercase (String.ofList name), String.ofList value), s)

/-- The parameters of a value, in order. A semicolon at the end is allowed; a name that stands twice
with different values is not. Every parameter takes a character at least. -/
def takeParams? : Nat → List (String × String) → List Char → Option (List (String × String))
  | 0, _, _ => none
  | fuel + 1, done, s =>
    if (Text.trimLeft s).isEmpty then some done
    else
      match takeParam? s with
      | none => if Text.trim s = [';'] then some done else none
      | some ((name, value), rest) =>
        match done.lookup name with
        | some old => if old = value then takeParams? fuel done rest else none
        | none => takeParams? fuel (done ++ [(name, value)]) rest

/-- The text of a value that names its character set, as in `utf-8'en'a%20b`. -/
def decodeExtended? (value : String) : Option String :=
  match Text.splitOn '\'' value.toList with
  | charset :: _ :: rest =>
    let name := lowercase (String.ofList charset)
    if rest.isEmpty || (name ≠ "us-ascii" && name ≠ "utf-8") then none
    else (unescape? (Text.joinWith ['\''] rest)).map fun bs => String.ofList (Text.ofBytes bs)
  | _ => none

/-- The pieces of a value that was cut into numbered parameters, from a number on. -/
def pieces (params : List (String × String)) (name : String) : Nat → Nat → List String
  | 0, _ => []
  | fuel + 1, n =>
    let key := name ++ "*" ++ decimal n
    match params.lookup key, params.lookup (key ++ "*") with
    | some v, _ => v :: pieces params name fuel (n + 1)
    | none, some v =>
      let text := if n = 0 then (decodeExtended? v).getD ""
        else ((unescape? v.toList).map fun bs => String.ofList (Text.ofBytes bs)).getD ""
      text :: pieces params name fuel (n + 1)
    | none, none => []

/-- The value of a parameter, which may be written in an extended form or in pieces. -/
def get (m : MediaType) (name : String) : String :=
  match m.params.lookup (name ++ "*") with
  | some v => ((decodeExtended? v).orElse fun _ => m.params.lookup name).getD ""
  | none =>
    match pieces m.params name (m.params.length + 1) 0 with
    | [] => (m.params.lookup name).getD ""
    | ps => String.join ps

/-- Reads a value with its parameters. -/
def parse? (s : String) : Option MediaType :=
  let base := s.toList.takeWhile (· ≠ ';')
  let name := Text.trim (base.map Text.lower)
  if !isName name then none
  else
    (takeParams? (s.length + 1) [] (s.toList.drop base.length)).map fun params =>
      { name := String.ofList name, params }

end MediaType

end JavaReview.Http
