import JavaReview.Text.Decimal
import JavaReview.Text.Quoted

/-!
Values of flags on a command line. Integers may carry a mark of their base and underscores between
digits, as in `0x_ff`.
-/

namespace JavaReview.Command

/-- Why a text is no value. -/
inductive ValueFault where
  | notInteger (text : String)
  | outOfRange (text : String)
  | notFlag (text : String)
deriving DecidableEq, Repr

namespace ValueFault

/-- The text of a fault. -/
def message : ValueFault → String
  | notInteger s => "strconv.ParseInt: parsing " ++ quoted s ++ ": invalid syntax"
  | outOfRange s => "strconv.ParseInt: parsing " ++ quoted s ++ ": value out of range"
  | notFlag s => "strconv.ParseBool: parsing " ++ quoted s ++ ": invalid syntax"

end ValueFault

/-- The value of a digit. -/
def digitValue? (c : Char) : Option Nat :=
  if c.isDigit then some (c.toNat - '0'.toNat)
  else if 'a' ≤ c && c ≤ 'z' then some (c.toNat - 'a'.toNat + 10)
  else if 'A' ≤ c && c ≤ 'Z' then some (c.toNat - 'A'.toNat + 10)
  else none

/-- The base of digits and the digits after its mark. -/
def splitBase : List Char → Nat × List Char
  | '0' :: x :: d :: r =>
    if x = 'b' || x = 'B' then (2, d :: r)
    else if x = 'o' || x = 'O' then (8, d :: r)
    else if x = 'x' || x = 'X' then (16, d :: r)
    else (8, x :: d :: r)
  | '0' :: r => (8, r)
  | s => (10, s)

/-- The number that digits write after those of `n`, as long as it fits into 64 bits. Underscores are
passed over. -/
def digitsFrom (text : String) (base n : Nat) : List Char → Except ValueFault Nat
  | [] => .ok n
  | '_' :: r => digitsFrom text base n r
  | c :: r =>
    match digitValue? c with
    | none => .error (.notInteger text)
    | some d =>
      if d ≥ base then .error (.notInteger text)
      else if base * n + d ≥ wordValues then .error (.outOfRange text)
      else digitsFrom text base (base * n + d) r

/-- Whether every underscore stands after a digit and before one; `after` tells whether a digit was
read last. -/
def underscoresFit (after : Bool) : List Char → Bool
  | [] => true
  | ['_'] => false
  | '_' :: c :: r => after && c ≠ '_' && underscoresFit true (c :: r)
  | _ :: r => underscoresFit true r

/-- Whether a number has the mark of a base; an underscore may follow the mark. -/
def hasMark : List Char → Bool
  | '0' :: x :: _ => "bBoOxX".toList.contains x
  | _ => false

/-- The integer that a text writes. -/
def readInteger (text : String) : Except ValueFault Int := do
  let (negative, s) := match text.toList with
    | '-' :: r => (true, r)
    | '+' :: r => (false, r)
    | r => (false, r)
  if s.isEmpty then .error (.notInteger text)
  else
    let (base, ds) := splitBase s
    let n ← digitsFrom text base 0 ds
    let marked := hasMark s
    if !underscoresFit marked (if marked then s.drop 2 else s) then .error (.notInteger text)
    else
      let i : Int := if negative then -n else n
      if fitsWord i then .ok i else .error (.outOfRange text)

/-- The flag that a text writes. -/
def readFlag (text : String) : Except ValueFault Bool :=
  if ["1", "t", "T", "TRUE", "true", "True"].contains text then .ok true
  else if ["0", "f", "F", "FALSE", "false", "False"].contains text then .ok false
  else .error (.notFlag text)

end JavaReview.Command
