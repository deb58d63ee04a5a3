import JavaReview.Store.Sign
import JavaReview.Text.Case
import JavaReview.Text.Decimal
import JavaReview.Text.Space

/-!
Settings of an open store, each written as a name with a value after an equals sign or in parentheses.
Before the name the part of the store that is meant may be named. Most settings change nothing that is
seen.
-/

namespace JavaReview.Setting

open Text.Unicode (hexDigit? hexNumber)

/-! ## Reading -/

/-- Why a setting cannot be made. -/
inductive Fault where
  | near (text : String)
  | unfinished
  | unrecognized (text : String)
  | unknownPart (name : String)
  | unknownEncoding (name : String)
  | unknownTable (name : String)
deriving DecidableEq, Repr

namespace Fault

/-- The text of a fault. -/
def message : Fault → String
  | near text => "near \"" ++ text ++ "\": syntax error"
  | unfinished => "incomplete input"
  | unrecognized text => "unrecognized token: \"" ++ text ++ "\""
  | unknownPart name => "unknown database " ++ name
  | unknownEncoding name => "unsupported encoding: " ++ name
  | unknownTable name => "no such table: " ++ name

/-- The fault of signs that do not fit. -/
def ofSigns : List Sign → Fault
  | [] => unfinished
  | .unknown s :: _ => unrecognized (String.ofList s)
  | s :: _ => near s.text

end Fault

/-- The parts of a store: what is in the file, and what is temporary. -/
inductive Part where
  | main
  | temporary
deriving DecidableEq, Repr

/-- The name of a part. -/
def Part.name : Part → String
  | main => "main"
  | temporary => "temp"

/-- A value, and the digits of one that is written as a number. -/
structure Value where
  text : String
  digits : Option (List Char) := none
deriving DecidableEq, Repr

/-- A setting: the part it is for, if that is named, a name, and a value, if there is one. -/
structure Assignment where
  part : Option Part := none
  name : String
  value : Option Value := none
deriving DecidableEq, Repr

/-- Whether a setting is for what is temporary, so that it does not touch the file. -/
def Assignment.isTemporary (a : Assignment) : Bool := a.part = some .temporary

/-- The text with small letters for the capital ones of ASCII. -/
def plainLower (s : List Char) : String := String.ofList (s.map Char.toLower)

/-- The words that are no names. -/
def reservedWords : List String :=
  ["add", "all", "alter", "and", "as", "autoincrement", "between", "case", "check", "collate", "commit",
    "constraint", "create", "default", "deferrable", "delete", "distinct", "drop", "else", "escape",
    "except", "exists", "foreign", "from", "group", "having", "in", "index", "insert", "intersect",
    "into", "is", "isnull", "join", "limit", "not", "nothing", "notnull", "null", "on", "or", "order",
    "primary", "references", "returning", "select", "set", "table", "then", "to", "transaction",
    "union", "unique", "update", "using", "values", "when", "where"]

/-- The words that are no names but may be values. -/
def valueWords : List String := ["on", "delete", "default"]

/-- A name at the start of signs: what is meant by it, how it is written, and what follows it. -/
def readName : List Sign → Except Fault (List Char × String × List Sign)
  | .word w :: r =>
    if reservedWords.contains (plainLower w) then .error (.near (String.ofList w))
    else .ok (w, String.ofList w, r)
  | .enclosed written meant :: r => .ok (meant, String.ofList written, r)
  | r => .error (.ofSigns r)

/-- A value at the start of signs, and what follows it. -/
def readValue : List Sign → Except Fault (Value × List Sign)
  | .word w :: r =>
    if valueWords.contains (plainLower w) then .ok ({ text := String.ofList w }, r)
    else do
      let (meant, _, r) ← readName (.word w :: r)
      return ({ text := String.ofList meant }, r)
  | .enclosed _ meant :: r => .ok ({ text := String.ofList meant }, r)
  | .number s :: r | .mark ['+'] :: .number s :: r =>
    .ok ({ text := String.ofList s, digits := some s }, r)
  | .mark ['-'] :: .number s :: r => .ok ({ text := "-" ++ String.ofList s, digits := some s }, r)
  | .mark ['+'] :: r | .mark ['-'] :: r | r => .error (.ofSigns r)

/-- The value after a name, if there is one, and what follows it. -/
def readRight : List Sign → Except Fault (Option Value × List Sign)
  | .mark ['='] :: r | .mark ['=', '='] :: r => do
    let (value, r) ← readValue r
    return (some value, r)
  | .mark ['('] :: r => do
    match ← readValue r with
    | (value, .mark [')'] :: r) => return (some value, r)
    | (_, r) => throw (.ofSigns r)
  | r => .ok (none, r)

/-- The part of a store with a name, which is written in some way. -/
def partOf (name : List Char) (written : String) : Except Fault Part :=
  match [Part.main, .temporary].find? (·.name = plainLower name) with
  | some part => .ok part
  | none => .error (.unknownPart written)

/-- One setting at the start of signs, and what follows the semicolon after it. -/
def readOne (signs : List Sign) : Except Fault (Assignment × List Sign) := do
  let (first, written, r) ← readName signs
  let (named, name, r) ← match r with
    | .mark ['.'] :: r => do
      let (name, _, r) ← readName r
      pure (some (first, written), name, r)
    | r => pure (none, first, r)
  let (value, r) ← readRight r
  let rest ← match r with
    | [] => pure []
    | .mark [';'] :: r => pure r
    | r => throw (.ofSigns r)
  let part ← match named with
    | none => pure none
    | some (name, written) => some <$> partOf name written
  return ({ part, name := plainLower name, value }, rest)

/-- The word that stands before every setting after the first. -/
def leadingWord : String := "pragma"

/-- Settings with semicolons between them. Each takes a sign, so the number of signs is enough
fuel. -/
def readSigns : Nat → List Sign → Except Fault (List Assignment)
  | 0, signs => .error (.ofSigns signs)
  | fuel + 1, signs => do
    let (a, rest) ← readOne signs
    match rest.dropWhile (· == .mark [';']) with
    | [] => return [a]
    | .word w :: r =>
      if plainLower w = leadingWord then return a :: (← readSigns fuel r)
      else throw (.near (String.ofList w))
    | r => throw (.ofSigns r)

/-- The settings that a text writes; a blank comes before it. -/
def read (s : String) : Except Fault (List Assignment) :=
  let signs := Sign.ofText (" " ++ s)
  readSigns (signs.length + 1) signs

/-- The text by which settings are put in order. -/
def rank (s : String) : String := trimmed (lowercase s)

/-- The settings that are made before all others. -/
def firstRank : String := "busy_timeout"

/-- Whether a setting may be made before another. -/
def precedes (s t : String) : Bool :=
  (rank s).startsWith firstRank || (!(rank t).startsWith firstRank && rank s ≤ rank t)

/-! ## Values -/

/-- The number of at most 31 bits that a text starts with, if it starts with one. -/
def smallNumber? (s : List Char) : Option Nat :=
  match s with
  | '0' :: x :: d :: r =>
    if (x = 'x' || x = 'X') && Sign.isHex d then
      let digits := ((d :: r).takeWhile Sign.isHex).dropWhile (· = '0')
      if digits.length ≤ 8 then limited (hexNumber 0 digits).1 else none
    else ofDigits
  | _ => ofDigits
where
  /-- The number, if it has at most 31 bits. -/
  limited (n : Nat) : Option Nat := if n < 0x80000000 then some n else none
  /-- The number that decimal digits write. -/
  ofDigits : Option Nat := (digitsValue? (s.takeWhile Char.isDigit)).bind limited

/-- Whether a value switches something on. Of a number only the last eight bits count, and one that is
too large counts as zero. -/
def isOn (value : String) : Bool :=
  match value.toList with
  | c :: r =>
    if c.isDigit then (smallNumber? (c :: r)).any (· % 256 ≠ 0)
    else ["on", "yes", "true"].contains (plainLower (c :: r))
  | [] => false

/-- The positive number that a value is as a whole, if it is one of 63 bits. -/
def positive? (value : String) : Option Nat :=
  let n := match value.toList with
    | '0' :: 'x' :: r | '0' :: 'X' :: r =>
      match hexNumber 0 r with
      | (n, []) => n
      | _ => 0
    | s =>
      match s.dropWhile Sign.isBlank with
      | '+' :: r => (digitsValue? r).getD 0
      | r => (digitsValue? r).getD 0
  if 0 < n ∧ n < 0x8000000000000000 then some n else none

/-- The encodings of texts. -/
def encodings : List String :=
  ["utf8", "utf-8", "utf-16le", "utf-16be", "utf16le", "utf16be", "utf-16", "utf16"]

end JavaReview.Setting
