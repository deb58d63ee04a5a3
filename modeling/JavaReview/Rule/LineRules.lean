import JavaReview.Rule

/-!
Rules that look at one line at a time, and the rule that counts the braces of the whole text.
-/

namespace JavaReview.Rule

open Text

/-- Whether some suffix of the text, the empty one included, fits. -/
def anySuffix (fits : List Char → Bool) : List Char → Bool
  | [] => fits []
  | c :: r => fits (c :: r) || anySuffix fits r

/-! ## Markers and logging -/

/-- Lines that carry a reminder. -/
def todoComment : Rule :=
  .ofLines "todo-comment" "Lines carrying a TODO marker." <| Issue.onLines
    { title := "TODO comment found"
      description := "There is a TODO comment in the code."
      suggestion := "Finish or remove TODO comments to keep the code clean."
      category := .warning
      severity := .low }
    (contains "TODO".toList)

/-- Lines that print to the console. -/
def consoleLogging : Rule :=
  .ofLines "console-logging" "System.out.println used instead of a logger." <| Issue.onLines
    { title := "Console logging"
      description := "System.out.println is used."
      suggestion := "Use a proper logging framework instead of System.out.println in production code."
      category := .optimization
      severity := .medium }
    (contains "System.out.println".toList)

/-! ## Concatenated queries -/

/-- A `select` in any case, a double quote and a plus sign on one line. -/
def concatenatesQuery (l : Line) : Bool :=
  contains "select ".toList (l.map lower) && l.contains '"' && l.contains '+'

/-- Queries put together from pieces. -/
def sqlConcatenation : Rule :=
  .ofLines "sql-string-concatenation" "SELECT statements assembled with string concatenation." <|
    Issue.onLines
    { title := "Possible SQL Injection"
      description := "SQL query is built using string concatenation."
      suggestion := "Use PreparedStatement or parameterized queries to avoid SQL injection."
      category := .security
      severity := .high }
    concatenatesQuery

/-! ## Long lines -/

/-- The longest line, in characters, that is accepted. -/
def maxLineLength : Nat := 120

/-- Lines that are too long. -/
def longLine : Rule :=
  .ofLines "long-line" "Lines longer than 120 characters." <| Issue.onLines
    { title := "Long line"
      description := "This line is very long."
      suggestion := "Break long lines into smaller chunks for better readability."
      category := .optimization
      severity := .low }
    (fun l => l.length > maxLineLength)

/-! ## Empty catch blocks -/

/-- Whether the text starts with a `catch` clause whose block holds blanks only. -/
def startsEmptyCatch (s : List Char) : Bool :=
  (do
    let s ← eat? "catch".toList s
    let s ← eat? ['('] (skipBlanks s)
    let s ← after? ')' s
    let s ← eat? ['\x7b'] (skipBlanks s)
    eat? ['\x7d'] (skipBlanks s)).isSome

/-- Exceptions that are swallowed. -/
def emptyCatch : Rule :=
  .ofLines "empty-catch" "catch blocks with nothing between the braces." <| Issue.onLines
    { title := "Empty catch block"
      description := "Empty catch blocks hide exceptions and make debugging difficult."
      suggestion := "Log the exception and/or handle it appropriately."
      category := .warning
      severity := .medium }
    (anySuffix startsEmptyCatch)

/-! ## Secrets -/

/-- Whether the text starts with blanks and an equals sign. -/
def startsAssignment (s : List Char) : Bool := (eat? ['='] (skipBlanks s)).isSome

/-- What follows an optional underscore or hyphen. -/
def skipJoiner : List Char → List Char
  | [] => []
  | c :: r => if c = '_' || c = '-' then r else c :: r

/-- A letter or digit of an access key id, up to case. -/
def isKeyChar (c : Char) : Bool :=
  let f := fold c
  ('0' ≤ f && f ≤ '9') || ('a' ≤ f && f ≤ 'z')

/-- Whether the text starts with an access key id. -/
def startsAccessKey (s : List Char) : Bool :=
  match eatFold? "AKIA".toList s with
  | none => false
  | some r => 16 ≤ r.length && (r.take 16).all isKeyChar

/-- Whether the text starts with an assignment to a secret or with an access key id, up to case. -/
def startsSecret (s : List Char) : Bool :=
  ((eatFold? "password".toList s).any startsAssignment) ||
    ((eatFold? "api".toList s).any fun r =>
      (eatFold? "key".toList (skipJoiner r)).any startsAssignment) ||
    ((eatFold? "secret".toList s).any startsAssignment) ||
    startsAccessKey s

/-- Credentials written into the code. -/
def hardcodedSecret : Rule :=
  .ofLines "hardcoded-secret" "Password, API key or secret assignments and AWS access key ids." <|
    Issue.onLines
    { title := "Hardcoded secret detected"
      description := "Potentially sensitive credential detected in code."
      suggestion := "Do not commit secrets. Use environment variables or a secrets manager."
      category := .security
      severity := .high }
    (anySuffix startsSecret)

/-! ## Unmatched braces -/

/-- What unmatched braces are reported with. -/
def unmatchedBracesIssue : Issue where
  title := "Unmatched braces"
  description := "Number of '\x7b' and '\x7d' characters does not match."
  suggestion := "Ensure each opening brace has a matching closing brace."
  category := .error
  severity := .high

/-- A text with more braces of one kind than of the other; braces in strings and comments count. -/
def unmatchedBraces : Rule where
  name := "unmatched-braces"
  summary := "Whole-file count of '\x7b' differs from '\x7d'."
  check ctx := .ok <|
    if ctx.source.count '\x7b' = ctx.source.count '\x7d' then [] else [unmatchedBracesIssue.atLine 0]

end JavaReview.Rule
