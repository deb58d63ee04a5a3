import JavaReview.Json.Value
import JavaReview.Text.Quoted
import JavaReview.Text.Unicode.Ranges

/-!
Reading JSON. `readWhole?` takes a text that holds one value and nothing else; `readFirst` takes the
value at the start of a text and leaves the rest, which is how a request body is read.
-/

namespace JavaReview.Json

open Text.Unicode (hexDigit?)

/-- The four blanks of the grammar. -/
def isGap (c : Char) : Bool := c == ' ' || c == '\t' || c == '\r' || c == '\n'

/-- The text after the blanks at its start. -/
def skipGap (s : List Char) : List Char := s.dropWhile isGap

/-- The number that four hexadecimal digits write. -/
def hex4? (a b c d : Char) : Option Nat := do
  return (((← hexDigit? a) * 16 + (← hexDigit? b)) * 16 + (← hexDigit? c)) * 16 + (← hexDigit? d)

/-- Whether a character is a hexadecimal digit. -/
def isHex (c : Char) : Bool := (hexDigit? c).isSome

/-- Where a character does not go on in a way that a value does. -/
inductive Spot where
  | valueStart
  | nameStart
  | afterName
  | afterField
  | afterItem
  | afterWhole
  | inNumber
  | inText
  | inWord (word : String) (expected : Char)
deriving DecidableEq, Repr

namespace Spot

/-- How a place is told. -/
def text : Spot → String
  | valueStart => "looking for beginning of value"
  | nameStart => "looking for beginning of object key string"
  | afterName => "after object key"
  | afterField => "after object key:value pair"
  | afterItem => "after array element"
  | afterWhole => "after top-level value"
  | inNumber => "in numeric literal"
  | inText => "in string"
  | inWord word expected => "in literal " ++ word ++ " (expecting " ++ quotedLetter expected ++ ")"

end Spot

/-- Why no value can be read: the text ends inside it, or goes on in a way that no value does. -/
inductive ReadError where
  | ended
  | unexpected (c : Char) (spot : Spot)
  | badEscape (text : String)
  | tooDeep
deriving DecidableEq, Repr

namespace ReadError

/-- Whether a character can stand in a message as it is. -/
def isPlain (c : Char) : Bool :=
  Text.isPrintable c && c ≠ ' ' && c ≠ '\x60' && c ≠ '\uFFFD'

/-- How an escape sequence is told. -/
def escapeText (s : String) : String :=
  if s.all isPlain then "\x60" ++ s ++ "\x60" else quoted s

/-- The text of an error. -/
def message : ReadError → String
  | ended => "unexpected end of JSON input"
  | unexpected c spot => "invalid character " ++ quotedLetter c ++ " " ++ spot.text
  | badEscape text => "invalid escape sequence " ++ escapeText text ++ " in string"
  | tooDeep => "exceeded max depth"

end ReadError

/-- What was read, or why not. -/
abbrev Reading (α : Type) := Except ReadError α

/-- The character that a letter after a backslash stands for. -/
def shortEscape? (c : Char) : Option Nat :=
  match c with
  | '"' => some 0x22 | '\\' => some 0x5C | '/' => some 0x2F | 'b' => some 0x08
  | 'f' => some 0x0C | 'n' => some 0x0A | 'r' => some 0x0D | 't' => some 0x09
  | _ => none

/-- The code units of a text up to its closing quote, and what follows it. -/
def readUnits : List Char → Reading (List Nat × List Char)
  | [] => .error .ended
  | '"' :: r => .ok ([], r)
  | '\\' :: 'u' :: a :: b :: c :: d :: r =>
    match hex4? a b c d with
    | none => .error (.badEscape (String.ofList ['\\', 'u', a, b, c, d]))
    | some n => (readUnits r).map fun (us, rest) => (n :: us, rest)
  | '\\' :: 'u' :: r =>
    .error (if r.all isHex then .ended else .badEscape (String.ofList ('\\' :: 'u' :: r)))
  | '\\' :: e :: r =>
    match shortEscape? e with
    | none => .error (.badEscape (String.ofList ['\\', e]))
    | some n => (readUnits r).map fun (us, rest) => (n :: us, rest)
  | c :: r =>
    if c = '\\' then .error .ended
    else if c.toNat < 0x20 then .error (.unexpected c .inText)
    else (readUnits r).map fun (us, rest) => (c.toNat :: us, rest)

/-- The first half of a surrogate pair. -/
def isHighHalf (n : Nat) : Bool := 0xD800 ≤ n && n < 0xDC00

/-- The second half of a surrogate pair. -/
def isLowHalf (n : Nat) : Bool := 0xDC00 ≤ n && n < 0xE000

/-- The characters that code units write. The two halves of a pair are joined, and a half that
stands alone becomes the replacement character. -/
def charsOfUnits : List Nat → List Char
  | [] => []
  | [u] => [if isHighHalf u || isLowHalf u then Char.ofNat 0xFFFD else Char.ofNat u]
  | u :: v :: r =>
    if isHighHalf u && isLowHalf v then
      Char.ofNat (0x10000 + (u - 0xD800) * 0x400 + (v - 0xDC00)) :: charsOfUnits r
    else
      (if isHighHalf u || isLowHalf u then Char.ofNat 0xFFFD else Char.ofNat u) ::
        charsOfUnits (v :: r)

/-- A text whose opening quote was read. -/
def readText (s : List Char) : Reading (String × List Char) := do
  let (us, rest) ← readUnits s
  return (String.ofList (charsOfUnits us), rest)

/-- The number that decimal digits write. -/
def digitsValue (ds : List Char) : Nat := ds.foldl (fun n d => 10 * n + (d.toNat - 48)) 0

/-- One digit or more, and what follows them. -/
def readDigits (s : List Char) : Reading (List Char × List Char) :=
  match s.takeWhile Char.isDigit, s.dropWhile Char.isDigit with
  | [], [] => .error .ended
  | [], c :: _ => .error (.unexpected c .inNumber)
  | ds, rest => .ok (ds, rest)

/-- The fraction of a number, if it has one. -/
def readFraction : List Char → Reading (List Char × List Char)
  | '.' :: r => (readDigits r).map fun (ds, rest) => ('.' :: ds, rest)
  | s => .ok ([], s)

/-- The exponent of a number, if it has one. -/
def readExponent : List Char → Reading (List Char × List Char)
  | [] => .ok ([], [])
  | e :: r =>
    if e = 'e' || e = 'E' then
      let (sign, r) := match r with
        | '+' :: t => (['+'], t)
        | '-' :: t => (['-'], t)
        | t => ([], t)
      (readDigits r).map fun (ds, rest) => (e :: sign ++ ds, rest)
    else .ok ([], e :: r)

/-- A number: an integer, or the text of any other. A zero with a sign is no integer. -/
def readNumber (s : List Char) : Reading (Json × List Char) := do
  let (sign, r) := match s with
    | '-' :: t => (['-'], t)
    | t => ([], t)
  let (whole, r) ← match r with
    | '0' :: t => pure (['0'], t)
    | t => readDigits t
  let (frac, r) ← readFraction r
  let (exp, r) ← readExponent r
  if frac.isEmpty && exp.isEmpty && (sign.isEmpty || whole ≠ ['0']) then
    let n : Int := digitsValue whole
    return (.int (if sign.isEmpty then n else -n), r)
  else return (.real (String.ofList (sign ++ whole ++ frac ++ exp)), r)

/-- The rest of a word that stands for a value, at the start of a text. -/
def readWord (word : String) (v : Json) : List Char → List Char → Reading (Json × List Char)
  | [], s => .ok (v, s)
  | _ :: _, [] => .error .ended
  | a :: rest, c :: s =>
    if a = c then readWord word v rest s else .error (.unexpected c (.inWord word a))

/-- The deepest nesting that is read. -/
def maxDepth : Nat := 10000

mutual

/-- One value, after blanks. -/
def readValue (fuel depth : Nat) (s : List Char) : Reading (Json × List Char) :=
  match fuel with
  | 0 => .error .tooDeep
  | fuel + 1 =>
    match skipGap s with
    | [] => .error .ended
    | '"' :: r => (readText r).map fun (t, rest) => (.str t, rest)
    | '[' :: r =>
      if depth ≥ maxDepth then .error .tooDeep
      else
        match skipGap r with
        | ']' :: rest => .ok (.arr [], rest)
        | r => (readItems fuel (depth + 1) r).map fun (vs, rest) => (.arr vs, rest)
    | '\x7b' :: r =>
      if depth ≥ maxDepth then .error .tooDeep
      else
        match skipGap r with
        | '\x7d' :: rest => .ok (.obj [], rest)
        | r => (readFields fuel (depth + 1) r).map fun (fs, rest) => (.obj fs, rest)
    | 'n' :: r => readWord "null" .null ['u', 'l', 'l'] r
    | 't' :: r => readWord "true" (.bool true) ['r', 'u', 'e'] r
    | 'f' :: r => readWord "false" (.bool false) ['a', 'l', 's', 'e'] r
    | c :: r =>
      if c = '-' || c.isDigit then readNumber (c :: r) else .error (.unexpected c .valueStart)

/-- The items of an array and its closing bracket. -/
def readItems (fuel depth : Nat) (s : List Char) : Reading (List Json × List Char) :=
  match fuel with
  | 0 => .error .tooDeep
  | fuel + 1 => do
    let (v, r) ← readValue fuel depth s
    match skipGap r with
    | [] => .error .ended
    | ']' :: rest => return ([v], rest)
    | ',' :: r =>
      let (vs, rest) ← readItems fuel depth r
      return (v :: vs, rest)
    | c :: _ => .error (.unexpected c .afterItem)

/-- The fields of an object and its closing brace. -/
def readFields (fuel depth : Nat) (s : List Char) : Reading (List (String × Json) × List Char) :=
  match fuel with
  | 0 => .error .tooDeep
  | fuel + 1 =>
    match skipGap s with
    | [] => .error .ended
    | '"' :: r => do
      let (k, r) ← readText r
      match skipGap r with
      | [] => .error .ended
      | ':' :: r =>
        let (v, r) ← readValue fuel depth r
        match skipGap r with
        | [] => .error .ended
        | '\x7d' :: rest => return ([(k, v)], rest)
        | ',' :: r =>
          let (fs, rest) ← readFields fuel depth r
          return ((k, v) :: fs, rest)
        | c :: _ => .error (.unexpected c .afterField)
      | c :: _ => .error (.unexpected c .afterName)
    | c :: _ => .error (.unexpected c .nameStart)

end

/-- Reading a value calls no deeper than its text has characters. -/
def fuelFor (s : List Char) : Nat := 2 * s.length + 2

/-- The value at the start of a text, and what follows it. -/
def readFirst (s : List Char) : Reading (Json × List Char) := readValue (fuelFor s) 0 s

/-- The value that makes up the whole text, blanks around it apart. -/
def readWhole (s : List Char) : Reading Json := do
  let (v, rest) ← readFirst s
  match skipGap rest with
  | [] => return v
  | c :: _ => throw (.unexpected c .afterWhole)

/-- The value that makes up the whole text, if there is one. -/
def readWhole? (s : List Char) : Option Json := (readWhole s).toOption

end JavaReview.Json
