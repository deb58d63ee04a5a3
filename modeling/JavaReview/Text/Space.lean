/-!
White space. Text is trimmed and split into words by the Unicode property; the five ASCII blanks
are the narrower class that program text is scanned by.
-/

namespace JavaReview.Text

/-- The Unicode property `White_Space`. -/
def isSpace (c : Char) : Bool :=
  let n := c.toNat
  (0x09 ≤ n && n ≤ 0x0D) || n == 0x20 || n == 0x85 || n == 0xA0 || n == 0x1680 ||
    (0x2000 ≤ n && n ≤ 0x200A) || n == 0x2028 || n == 0x2029 || n == 0x202F || n == 0x205F ||
    n == 0x3000

/-- Tab, line feed, form feed, carriage return and space. -/
def isBlank (c : Char) : Bool :=
  c == ' ' || c == '\t' || c == '\n' || c == '\r' || c.toNat == 0x0C

/-- The text without the white space at its start. -/
def trimLeft (s : List Char) : List Char := s.dropWhile isSpace

/-- The text without the white space at its end. -/
def trimRight (s : List Char) : List Char := (s.reverse.dropWhile isSpace).reverse

/-- The text without the white space around it. -/
def trim (s : List Char) : List Char := trimRight (trimLeft s)

/-- The text without the ASCII blanks at its start. -/
def skipBlanks (s : List Char) : List Char := s.dropWhile isBlank

/-- The words of a text; `cur` holds the word being read, last character first. -/
def wordsFrom (cur : List Char) : List Char → List (List Char)
  | [] => if cur.isEmpty then [] else [cur.reverse]
  | c :: r =>
    if isSpace c then (if cur.isEmpty then [] else [cur.reverse]) ++ wordsFrom [] r
    else wordsFrom (c :: cur) r

/-- The maximal stretches of a text that are free of white space. -/
def words (s : List Char) : List (List Char) := wordsFrom [] s

end JavaReview.Text

namespace JavaReview

/-- The text without the white space around it. -/
def trimmed (s : String) : String := String.ofList (Text.trim s.toList)

end JavaReview
