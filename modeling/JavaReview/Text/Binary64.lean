import JavaReview.Text.Decimal

/-!
Binary floating point numbers of 64 bits, read from decimals and written as the shortest decimal that
reads back. Everything is computed exactly on natural numbers.
-/

namespace JavaReview

/-- A binary floating point number: a mantissa of at most 53 bits times a power of two, or one of the
values that are no numbers. -/
inductive Binary64 where
  | finite (negative : Bool) (mantissa : Nat) (exponent : Int)
  | infinite (negative : Bool)
  | nan
deriving DecidableEq, Repr

namespace Binary64

/-- The quotient rounded to the nearest integer, and to the even one of two nearest. -/
def roundQuotient (num den : Nat) : Nat :=
  let q := num / den
  let r := 2 * (num % den)
  if r > den || (r = den && q % 2 = 1) then q + 1 else q

/-- The least exponent. -/
def minExponent : Int := -1074

/-- The greatest exponent. -/
def maxExponent : Int := 971

/-- The fraction `num / den` divided by a power of two, as a fraction. -/
def scale (num den : Nat) (e : Int) : Nat × Nat :=
  if e ≥ 0 then (num, den <<< e.toNat) else (num <<< (-e).toNat, den)

/-- The exponent for which a positive fraction has a mantissa of 53 bits, or the least one. -/
def exponentOf (num den : Nat) : Int :=
  let e : Int := (Nat.log2 num : Int) - Nat.log2 den - 52
  let (n, d) := scale num den e
  let e := if n / d ≥ 1 <<< 53 then e + 1 else if n / d < 1 <<< 52 then e - 1 else e
  max e minExponent

/-- The nearest number to a fraction, or nothing if it is too large. -/
def ofFraction? (negative : Bool) (num den : Nat) : Option Binary64 :=
  if num = 0 then some (.finite negative 0 minExponent)
  else
    let e := exponentOf num den
    let (n, d) := scale num den e
    let m := roundQuotient n d
    let (m, e) := if m = 1 <<< 53 then (1 <<< 52, e + 1) else (m, e)
    if e > maxExponent then none else some (.finite negative m e)

/-- The nearest number to `digits * 10 ^ exponent`, or nothing if it is too large. -/
def ofDecimal? (negative : Bool) (digits : Nat) (exponent : Int) : Option Binary64 :=
  let size : Int := (Nat.toDigits 10 digits).length
  if digits = 0 || exponent + size < -330 then some (.finite negative 0 minExponent)
  else if exponent + size > 310 then none
  else if exponent ≥ 0 then ofFraction? negative (digits * Nat.pow 10 exponent.toNat) 1
  else ofFraction? negative digits (Nat.pow 10 (-exponent).toNat)

/-- The number that a decimal writes: digits with at most one point and an optional exponent. -/
def ofText? (s : List Char) : Option Binary64 := do
  let (neg, s) := splitSign s
  let whole := s.takeWhile Char.isDigit
  let s := s.dropWhile Char.isDigit
  let (fraction, s) := match s with
    | '.' :: r => (r.takeWhile Char.isDigit, r.dropWhile Char.isDigit)
    | r => ([], r)
  let exponent ← match s with
    | [] => some 0
    | e :: r =>
      if e ≠ 'e' && e ≠ 'E' then none
      else
        let (neg, ds) := splitSign r
        (digitsValue? ds).map fun n => if neg then -(n : Int) else (n : Int)
  let digits ← digitsValue? (whole ++ fraction)
  ofDecimal? neg digits (exponent - fraction.length)

/-- The nearest number to an integer of 64 bits. -/
def ofInt (n : Int) : Binary64 := (ofFraction? (n < 0) n.natAbs 1).getD .nan

/-- Whether a number is below zero. -/
def isNegative : Binary64 → Bool
  | finite neg m _ => neg && m != 0
  | infinite neg => neg
  | nan => false

/-- The integer part of a number, if it is finite. -/
def truncate? : Binary64 → Option Int
  | finite neg m e =>
    let n : Nat := if e ≥ 0 then m <<< e.toNat else m >>> (-e).toNat
    some (if neg then -(n : Int) else n)
  | _ => none

/-- A decimal: digits and a power of ten. -/
structure Decimal where
  digits : Nat
  exponent : Int
deriving DecidableEq, Repr

/-- The two neighbours of a fraction among the multiples of a power of ten, the nearer one first. -/
def neighbours (num den : Nat) (exponent : Int) : List Decimal :=
  let (n, d) := if exponent ≥ 0 then (num, den * Nat.pow 10 exponent.toNat)
    else (num * Nat.pow 10 (-exponent).toNat, den)
  let q := n / d
  if 2 * (n % d) ≤ d then [⟨q, exponent⟩, ⟨q + 1, exponent⟩] else [⟨q + 1, exponent⟩, ⟨q, exponent⟩]

/-- The first power of ten above a fraction, tried downwards from `e`. -/
def powerAbove (num den : Nat) : Nat → Int → Int
  | 0, e => e
  | fuel + 1, e =>
    let below := e - 1
    let small := if below ≥ 0 then num < den * Nat.pow 10 below.toNat
      else num * Nat.pow 10 (-below).toNat < den
    if small then powerAbove num den fuel below else e

/-- The decimal with the fewest digits that reads back as a number, its sign apart. -/
def shortest (mantissa : Nat) (exponent : Int) : Decimal :=
  if mantissa = 0 then ⟨0, 0⟩
  else
    let (num, den) := scale mantissa 1 (-exponent)
    let guess : Int := (((Nat.log2 mantissa : Int) + exponent) * 31) / 100 + 10
    let top := powerAbove num den 700 guess
    let candidates := (List.range 17).flatMap fun i => neighbours num den (top - 1 - Int.ofNat i)
    (candidates.find? fun c =>
      ofDecimal? false c.digits c.exponent = some (.finite false mantissa exponent)).getD ⟨0, 0⟩

end Binary64

end JavaReview
