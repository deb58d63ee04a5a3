import JavaReview.Json.Value
import JavaReview.Text.Binary64

/-!
Numbers of JSON as binary floating point numbers, and values that were read without knowing what they
are: their numbers are rounded, and the fields of their objects are sorted.
-/

namespace JavaReview.Json

/-- The nearest binary number to a number, or nothing if it is too large. -/
def binary? : Json → Option Binary64
  | .int n => Binary64.ofDecimal? (n < 0) n.natAbs 0
  | .real t => Binary64.ofText? t.toList
  | _ => none

/-- A decimal with its digits in a row: the point is put where the power of ten asks for it. -/
def positional (d : Binary64.Decimal) : List Char :=
  let ds := Nat.toDigits 10 d.digits
  if d.exponent ≥ 0 then ds ++ List.replicate d.exponent.toNat '0'
  else
    let places := d.exponent.natAbs
    let ds := List.replicate (places + 1 - ds.length) '0' ++ ds
    ds.take (ds.length - places) ++ '.' :: ds.drop (ds.length - places)

/-- A decimal with its point after the first digit, and the power of ten. -/
def scientific (d : Binary64.Decimal) : List Char :=
  let ds := Nat.toDigits 10 d.digits
  let power : Int := d.exponent + (ds.length - 1 : Nat)
  ds.take 1 ++ (if ds.length > 1 then '.' :: ds.drop 1 else []) ++
    'e' :: (if power < 0 then '-' else '+') :: Nat.toDigits 10 power.natAbs

/-- How a binary number is written: from 10^-6 up to below 10^21 with its digits in a row, and
otherwise with a power of ten. -/
def binaryText : Binary64 → String
  | .finite negative m e =>
    let d := Binary64.shortest m e
    let size : Int := d.exponent + (Nat.toDigits 10 d.digits).length
    let digits := if d.digits = 0 || (-6 < size && size ≤ 21) then positional d else scientific d
    String.ofList (if negative then '-' :: digits else digits)
  | _ => ""

/-- Puts a field into sorted fields; an older one of that name is dropped. -/
def putSorted (name : String) (v : Json) : List (String × Json) → List (String × Json)
  | [] => [(name, v)]
  | (n, w) :: r =>
    if name < n then (name, v) :: (n, w) :: r
    else if n = name then (name, v) :: r
    else (n, w) :: putSorted name v r

mutual

/-- A value as it is written after it was read, or nothing if a number of it is too large. -/
def anew? : Json → Option Json
  | .null => some .null
  | .bool b => some (.bool b)
  | .str s => some (.str s)
  | .int n => (binary? (.int n)).map fun x => .real (binaryText x)
  | .real t => (binary? (.real t)).map fun x => .real (binaryText x)
  | .arr items => (anewItems? items).map .arr
  | .obj fields => (anewFields? [] fields).map .obj

/-- The items of an array. -/
def anewItems? : List Json → Option (List Json)
  | [] => some []
  | v :: r => do return (← anew? v) :: (← anewItems? r)

/-- The fields of an object, after those of `known`. -/
def anewFields? (known : List (String × Json)) : List (String × Json) → Option (List (String × Json))
  | [] => some known
  | f :: r => do
    let (name, v) ← anewField? f
    anewFields? (putSorted name v known) r

/-- A field of an object. -/
def anewField? : String × Json → Option (String × Json)
  | (name, v) => (anew? v).map (name, ·)

end

end JavaReview.Json
