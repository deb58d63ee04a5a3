import JavaReview.Text.Unicode.Ranges

/-!
The signs that settings of a store are written with: names, which may stand in quotes, numbers, and
the marks between them. Blanks and comments separate signs.
-/

namespace JavaReview.Setting

open Text.Unicode (hexDigit?)

/-- A sign. A name in quotes is kept as it is written and as it is meant; what is no sign is
unknown. -/
inductive Sign where
  | word (s : List Char)
  | enclosed (written meant : List Char)
  | number (s : List Char)
  | mark (s : List Char)
  | unknown (s : List Char)
deriving DecidableEq, Repr

namespace Sign

/-- How a sign is written. -/
def text : Sign → String
  | word s | enclosed s _ | number s | mark s | unknown s => String.ofList s

/-- The characters of words. -/
def isWordChar (c : Char) : Bool := c.isAlphanum || c = '_' || c = '$' || c.toNat ≥ 0x80

/-- The characters that start a blank. -/
def isBlank (c : Char) : Bool :=
  c = ' ' || c = '\t' || c = '\n' || c = '\r' || c.toNat = 0x0C || c.toNat = 0xFEFF

/-- Whether a character is a hexadecimal digit. -/
def isHex (c : Char) : Bool := (hexDigit? c).isSome

/-- The text up to a quote, which stands for itself where it is doubled, and what follows it. -/
def untilQuote? (quote : Char) : List Char → Option (List Char × List Char)
  | [] => none
  | c :: r =>
    if c ≠ quote then (untilQuote? quote r).map fun (s, rest) => (c :: s, rest)
    else
      match r with
      | d :: r' =>
        if d = quote then (untilQuote? quote r').map fun (s, rest) => (quote :: s, rest)
        else some ([], d :: r')
      | [] => some ([], [])

/-- The text up to a closing bracket, and what follows it. -/
def untilBracket? : List Char → Option (List Char × List Char)
  | [] => none
  | c :: r => if c = ']' then some ([], r) else (untilBracket? r).map fun (s, rest) => (c :: s, rest)

/-- A name in quotes, given its text and what follows it. -/
def ofEnclosed (s : List Char) : Option (List Char × List Char) → Sign × List Char
  | some (meant, rest) => (.enclosed (s.take (s.length - rest.length)) meant, rest)
  | none => (.unknown s, [])

/-- The digits at the start of a text, with the underscores that separate them. -/
def digitSpan (s : List Char) : List Char := s.takeWhile fun c => c.isDigit || c = '_'

/-- The fraction at the start of a text. -/
def fractionSpan : List Char → List Char
  | '.' :: r => '.' :: digitSpan r
  | _ => []

/-- The exponent at the start of a text. -/
def exponentSpan : List Char → List Char
  | e :: c :: r =>
    if e ≠ 'e' && e ≠ 'E' then []
    else if c.isDigit || ((c = '+' || c = '-') && r.head?.any Char.isDigit) then e :: c :: digitSpan r
    else []
  | _ => []

/-- The characters of a number at the start of a text. -/
def numberSpan (s : List Char) : List Char :=
  match s with
  | '0' :: x :: d :: r =>
    if (x = 'x' || x = 'X') && isHex d then
      '0' :: x :: d :: r.takeWhile fun c => isHex c || c = '_'
    else decimalSpan
  | _ => decimalSpan
where
  /-- The characters of a decimal number. -/
  decimalSpan : List Char :=
    let whole := digitSpan s
    let fraction := fractionSpan (s.drop whole.length)
    whole ++ fraction ++ exponentSpan (s.drop (whole.length + fraction.length))

/-- A number at the start of a text. One that a word runs on from is unknown, and one with separated
digits is not taken for a number. -/
def readNumber (s : List Char) : Sign × List Char :=
  let body := numberSpan s
  let rest := s.drop body.length
  let tail := rest.takeWhile isWordChar
  if !tail.isEmpty then (.unknown (body ++ tail), rest.drop tail.length)
  else (if body.contains '_' then .mark body else .number body, rest)

/-- The bytes that are written as hexadecimal digits between single quotes, after the letter and the
first quote. -/
def readBytes (letter : Char) (s : List Char) : Sign × List Char :=
  let digits := s.takeWhile isHex
  let body := s.takeWhile (· ≠ '\'')
  let written := letter :: '\'' :: body ++ (s.drop body.length).take 1
  let rest := s.drop (body.length + 1)
  if digits = body && body.length < s.length && body.length % 2 = 0 then (.mark written, rest)
  else (.unknown written, rest)

/-- What follows a comment that was opened with a slash and a star. -/
def afterComment : List Char → List Char
  | '*' :: '/' :: r => r
  | _ :: r => afterComment r
  | [] => []

/-- The marks of more than one character. -/
def longMarks : List (List Char) :=
  ["->>", "->", "==", "<=", "<>", "<<", ">=", ">>", "!=", "||"].map String.toList

/-- The marks of one character. -/
def shortMarks : List Char := "();+*/%=<>|,&~.-".toList

/-- A mark at the start of a text. -/
def readMark (c : Char) (r : List Char) : Sign × List Char :=
  match longMarks.find? (·.isPrefixOf (c :: r)) with
  | some m => (.mark m, (c :: r).drop m.length)
  | none => (if shortMarks.contains c then .mark [c] else .unknown [c], r)

/-- The sign at the start of a text without blanks and comments there. -/
def read (c : Char) (r : List Char) : Sign × List Char :=
  if c = '\'' || c = '"' || c = '\x60' then ofEnclosed (c :: r) (untilQuote? c r)
  else if c = '[' then ofEnclosed (c :: r) (untilBracket? r)
  else if c.isDigit || (c = '.' && r.head?.any Char.isDigit) then readNumber (c :: r)
  else if (c = 'x' || c = 'X') && r.head? == some '\'' then readBytes c (r.drop 1)
  else if c = '?' then (.mark (c :: r.takeWhile Char.isDigit), r.dropWhile Char.isDigit)
  else if c = '$' || c = '@' || c = '#' || c = ':' then
    let name := r.takeWhile isWordChar
    (if name.isEmpty then .unknown [c] else .mark (c :: name), r.drop name.length)
  else if isWordChar c then (.word (c :: r.takeWhile isWordChar), r.dropWhile isWordChar)
  else readMark c r

/-- The signs of a text. Every sign takes a character, so the length of the text is enough fuel. -/
def readAll : Nat → List Char → List Sign
  | 0, _ | _, [] => []
  | fuel + 1, c :: r =>
    if isBlank c then readAll fuel (r.dropWhile fun x => x.toNat = 0x0B)
    else
      match c, r with
      | '-', '-' :: r => readAll fuel (r.dropWhile (· ≠ '\n'))
      | '/', '*' :: x :: r => readAll fuel (afterComment (x :: r))
      | c, r =>
        let (sign, rest) := read c r
        sign :: readAll fuel rest

/-- The signs of a text, which a zero character ends. -/
def ofText (s : String) : List Sign :=
  let cs := s.toList.takeWhile (·.toNat ≠ 0)
  readAll cs.length cs

end Sign

end JavaReview.Setting
