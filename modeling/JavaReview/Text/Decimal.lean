import JavaReview.Word

/-!
Numbers in decimal.
-/

namespace JavaReview

/-- The decimal digits of a number, after a minus sign if it is negative. -/
def decimalChars (n : Int) : List Char :=
  if n < 0 then '-' :: Nat.toDigits 10 n.natAbs else Nat.toDigits 10 n.natAbs

/-- The decimal text of a number. -/
def decimal (n : Int) : String := String.ofList (decimalChars n)

/-- The decimal text of a number, filled with zeros after the sign to a width. -/
def paddedDecimal (width : Nat) (n : Int) : String :=
  let ds := Nat.toDigits 10 n.natAbs
  let sign := if n < 0 then ['-'] else []
  String.ofList (sign ++ List.replicate (width - sign.length - ds.length) '0' ++ ds)

/-- The value of decimal digits, or nothing if there are none or other characters among them. -/
def digitsValue? (ds : List Char) : Option Nat :=
  if ds.isEmpty || !ds.all Char.isDigit then none
  else some (ds.foldl (fun n d => 10 * n + (d.toNat - 48)) 0)

/-- Whether a text starts with a minus sign, and what follows its sign. -/
def splitSign (s : List Char) : Bool × List Char :=
  match s with
  | '-' :: r => (true, r)
  | '+' :: r => (false, r)
  | r => (false, r)

/-- Reads a decimal number of at most 64 bits, with an optional sign. -/
def readDecimal? (s : List Char) : Option Int := do
  let n ← match s with
    | '+' :: r => (digitsValue? r).map fun n => (n : Int)
    | '-' :: r => (digitsValue? r).map fun n => -(n : Int)
    | r => (digitsValue? r).map fun n => (n : Int)
  if fitsWord n then some n else none

end JavaReview
