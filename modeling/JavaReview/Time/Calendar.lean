/-!
The proleptic Gregorian calendar. Days are counted from 1970-01-01. Years are taken to start in
March, so that the leap day is the last of its year; four hundred of them make an era of equal
length.
-/

namespace JavaReview.Time

/-- A day of the calendar. -/
structure Date where
  year : Int
  month : Nat
  day : Nat
deriving DecidableEq, Repr

/-- The days of an era of four hundred years. -/
def daysPerEra : Int := 146097

/-- The number of days from 0000-03-01 to 1970-01-01. -/
def epochShift : Int := 719468

/-- Whether the year has a 29th of February. -/
def isLeapYear (y : Int) : Bool := y % 4 == 0 && (y % 100 != 0 || y % 400 == 0)

/-- The number of days of a month. -/
def daysIn (y : Int) (month : Nat) : Nat :=
  if month = 2 then (if isLeapYear y then 29 else 28)
  else if month = 4 ∨ month = 6 ∨ month = 9 ∨ month = 11 then 30
  else 31

/-- The days of an era before its year `y`. -/
def daysBefore (y : Nat) : Nat := 365 * y + y / 4 - y / 100

/-- The year of an era that a day of the era is in. -/
def yearOfEra (day : Nat) : Nat := (day - day / 1460 + day / 36524 - day / 146096) / 365

namespace Date

/-- The date of a day of a year, both counted from March. -/
def ofMarchDay (y : Int) (day : Nat) : Date :=
  let mp := (5 * day + 2) / 153
  let month := if mp < 10 then mp + 3 else mp - 9
  { year := if month ≤ 2 then y + 1 else y, month, day := day - (153 * mp + 2) / 5 + 1 }

/-- The date of a day. -/
def ofDays (days : Int) : Date :=
  let z := days + epochShift
  let doe := (z % daysPerEra).toNat
  let yoe := yearOfEra doe
  ofMarchDay (yoe + z / daysPerEra * 400) (doe - daysBefore yoe)

/-- The day of a date. -/
def toDays (d : Date) : Int :=
  let y := if d.month ≤ 2 then d.year - 1 else d.year
  let mp := if d.month > 2 then d.month - 3 else d.month + 9
  let doy := (153 * mp + 2) / 5 + d.day - 1
  y / 400 * daysPerEra + (daysBefore (y % 400).toNat + doy : Nat) - epochShift

/-- The day of the week, counted from Sunday. -/
def weekday (days : Int) : Nat := ((days + 4) % 7).toNat

end Date

end JavaReview.Time
