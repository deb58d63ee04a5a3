import JavaReview.Time.Instant

/-!
The text of a timestamp, as in `2020-02-29T12:34:56.789+02:00`: trailing zeros of the fraction are
left out, and so is a fraction of zero; an offset of zero is written `Z`.
-/

namespace JavaReview.Timestamp

open Time

/-- The last `width` decimal digits of a number. -/
def digits : Nat → Nat → List Char
  | 0, _ => []
  | width + 1, n => digits width (n / 10) ++ [Nat.digitChar (n % 10)]

/-- A year with at least four digits. -/
def yearText (y : Int) : List Char :=
  let n := y.natAbs
  let ds := if n < 10000 then digits 4 n else Nat.toDigits 10 n
  if y < 0 then '-' :: ds else ds

/-- Digits without the zeros at their end. -/
def stripZeros (ds : List Char) : List Char := (ds.reverse.dropWhile (· == '0')).reverse

/-- The fraction of a second, without trailing zeros. -/
def fractionText (nanos : Nat) : List Char :=
  match stripZeros (digits 9 nanos) with
  | [] => []
  | ds => '.' :: ds

/-- The offset from UTC, in hours and minutes. Its seconds are not written, so less than a minute is
`+00:00`. -/
def offsetText (offset : Int) : List Char :=
  if offset = 0 then ['Z']
  else
    let minutes := offset.natAbs / 60
    (if offset ≤ -60 then '-' else '+') :: digits 2 (minutes / 60) ++ ':' :: digits 2 (minutes % 60)

/-- The date as `year-month-day`. -/
def dateText (d : Date) : List Char :=
  yearText d.year ++ '-' :: digits 2 d.month ++ '-' :: digits 2 d.day

/-- The time of day as `hour:minute:second`. -/
def clockText (second : Nat) : List Char :=
  digits 2 (second / 3600) ++ ':' :: digits 2 (second / 60 % 60) ++ ':' :: digits 2 (second % 60)

/-- The characters of a timestamp's text. -/
def chars (t : Timestamp) : List Char :=
  dateText t.date ++ 'T' :: clockText t.secondOfDay ++ fractionText t.instant.nanos ++
    offsetText t.offset

/-- The text of a timestamp. -/
def text (t : Timestamp) : String := String.ofList t.chars

/-- Why a timestamp has no text in JSON. -/
inductive JsonFault where
  | year
  | offset
deriving DecidableEq, Repr

/-- The text of a fault. -/
def JsonFault.text : JsonFault → String
  | year => "year outside of range [0,9999]"
  | offset => "timezone hour outside of range [0,23]"

/-- What is wrong with a timestamp in JSON: its year has four digits there, and its offset is less than
a day. -/
def jsonFault? (t : Timestamp) : Option JsonFault :=
  if t.date.year < 0 ∨ 9999 < t.date.year then some .year
  else if t.offset.natAbs ≥ 86400 then some .offset
  else none

/-- The text of a timestamp on a calendar page, `2020-02-29 12:34:56`. -/
def plainText (t : Timestamp) : String :=
  String.ofList (dateText t.date ++ ' ' :: clockText t.secondOfDay)

/-- The value of a decimal digit. -/
def digit? (c : Char) : Option Nat := if c.isDigit then some (c.toNat - 48) else none

/-- Reads a number of exactly `n` digits, onto the value read so far. -/
def number? : Nat → Nat → List Char → Option (Nat × List Char)
  | 0, acc, s => some (acc, s)
  | _ + 1, _, [] => none
  | n + 1, acc, c :: r => do number? n (10 * acc + (← digit? c)) r

/-- Reads a number of one or two digits. -/
def shortNumber? : List Char → Option (Nat × List Char)
  | a :: b :: r => do
    let x ← digit? a
    match digit? b with
    | some y => return (10 * x + y, r)
    | none => return (x, b :: r)
  | [a] => do return (← digit? a, [])
  | [] => none

/-- Reads one given character. -/
def mark? (c : Char) : List Char → Option (List Char)
  | [] => none
  | d :: r => if c = d then some r else none

/-- The nanoseconds that the digits of a fraction write; digits after the ninth are dropped. -/
def nanosOf (ds : List Char) : Nat :=
  (((ds ++ List.replicate 9 '0').take 9).foldl (fun n d => 10 * n + (d.toNat - 48)) 0)

/-- Reads a fraction after a point or a comma, if there is one. -/
def fraction (s : List Char) : Nat × List Char :=
  match s with
  | p :: d :: r =>
    if (p = '.' || p = ',') && d.isDigit then
      (nanosOf ((d :: r).takeWhile Char.isDigit), (d :: r).dropWhile Char.isDigit)
    else (0, s)
  | _ => (0, s)

/-- Reads the offset, which ends the text. -/
def offset? : List Char → Option Int
  | ['Z'] => some 0
  | sign :: r => do
    let (h, r) ← number? 2 0 r
    let r ← mark? ':' r
    let (m, r) ← number? 2 0 r
    if !r.isEmpty || h > 24 || m > 60 then none
    else
      let seconds : Int := (h * 60 + m) * 60
      if sign = '+' then some seconds else if sign = '-' then some (-seconds) else none
  | [] => none

/-- Reads a timestamp. The hour may have one digit, and the fraction any number of them. -/
def parse? (s : List Char) : Option Timestamp := do
  let (year, r) ← number? 4 0 s
  let r ← mark? '-' r
  let (month, r) ← number? 2 0 r
  let r ← mark? '-' r
  let (day, r) ← number? 2 0 r
  let r ← mark? 'T' r
  let (hour, r) ← shortNumber? r
  let r ← mark? ':' r
  let (minute, r) ← number? 2 0 r
  let r ← mark? ':' r
  let (second, r) ← number? 2 0 r
  let (nanos, r) := fraction r
  let offset ← offset? r
  if month < 1 || month > 12 || day < 1 || day > daysIn year month || hour ≥ 24 || minute ≥ 60 ||
      second ≥ 60 then none
  else
    let wall := Date.toDays ⟨year, month, day⟩ * 86400 + (hour * 3600 + minute * 60 + second : Nat)
    return ⟨.ofParts (wall - offset) nanos, offset⟩

/-- Reads the text of a timestamp. -/
def ofText? (s : String) : Option Timestamp := parse? s.toList

end JavaReview.Timestamp
