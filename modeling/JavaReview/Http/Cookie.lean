import JavaReview.Text.Decimal
import JavaReview.Text.Search
import JavaReview.Time.HttpDate

/-!
Cookies: what a client sends back, and how the server asks it to keep a value.
-/

namespace JavaReview.Http

/-- The characters of a token. -/
def isTokenChar (c : Char) : Bool :=
  0x20 < c.toNat && c.toNat < 0x7F && !"()<>@,;:\\\"/[]?=\x7b\x7d".toList.contains c

namespace Cookie

/-- The characters of a cookie's value. -/
def isValueChar (c : Char) : Bool :=
  0x20 ≤ c.toNat && c.toNat < 0x7F && c ≠ '"' && c ≠ ';' && c ≠ '\\'

/-- The text without the blanks around it. -/
def trimBlanks (s : List Char) : List Char :=
  let blank (c : Char) : Bool := c = ' ' || c = '\t' || c = '\n' || c = '\r'
  ((s.dropWhile blank).reverse.dropWhile blank).reverse

/-- The text without the double quotes around it, if there are any. -/
def unquote (s : List Char) : List Char :=
  match s with
  | '"' :: r => if r.getLast? == some '"' then r.dropLast else s
  | _ => s

/-- The name and the value of a cookie. -/
def parse? (s : List Char) : Option (String × String) :=
  let s := trimBlanks s
  let name := trimBlanks (s.takeWhile (· ≠ '='))
  let value := unquote ((s.dropWhile (· ≠ '=')).drop 1)
  if !name.isEmpty && name.all isTokenChar && value.all isValueChar then
    some (String.ofList name, String.ofList value)
  else none

/-- The cookies of a header field, without those that cannot be read. -/
def parseAll (header : String) : List (String × String) :=
  (Text.splitOn ';' header.toList).filterMap parse?

end Cookie

/-- A cookie that the client is asked to keep for all paths and to show to no script. -/
structure Cookie where
  name : String
  value : String
  expires : Instant
  drop : Bool := false
  sameSiteLax : Bool := false

/-- The text of a cookie in a header field. -/
def Cookie.header (c : Cookie) : String :=
  c.name ++ "=" ++ c.value ++ "; Path=/; Expires=" ++ c.expires.httpDate ++
    (if c.drop then "; Max-Age=0" else "") ++ "; HttpOnly" ++
    (if c.sameSiteLax then "; SameSite=Lax" else "")

end JavaReview.Http
