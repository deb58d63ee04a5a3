import JavaReview.Time.Rfc3339

/-!
The date format of HTTP header fields, as in `Thu, 01 Jan 1970 00:00:00 GMT`.
-/

namespace JavaReview.Instant

open Time

/-- The names of the days of the week, from Sunday. -/
def weekdayNames : List String := ["Sun", "Mon", "Tue", "Wed", "Thu", "Fri", "Sat"]

/-- The names of the months, from January. -/
def monthNames : List String :=
  ["Jan", "Feb", "Mar", "Apr", "May", "Jun", "Jul", "Aug", "Sep", "Oct", "Nov", "Dec"]

/-- The date of an instant for a header field. -/
def httpDate (t : Instant) : String :=
  let stamp := Timestamp.utc t
  let d := stamp.date
  (weekdayNames[Date.weekday (t.seconds / 86400)]?).getD "" ++ ", " ++
    String.ofList (Timestamp.digits 2 d.day) ++ " " ++ (monthNames[d.month - 1]?).getD "" ++ " " ++
    String.ofList (Timestamp.yearText d.year) ++ " " ++
    String.ofList (Timestamp.clockText stamp.secondOfDay) ++ " GMT"

end JavaReview.Instant
