import JavaReview.Http.Target
import JavaReview.Text.Case

/-!
Requests and responses.
-/

namespace JavaReview.Http

/-- Header fields. Names are compared up to case. -/
abbrev Headers := List (String × String)

/-- The first value of a header field, or the empty text. -/
def Headers.get (h : Headers) (name : String) : String :=
  match h.find? fun f => lowercase f.1 == lowercase name with
  | some f => f.2
  | none => ""

/-- All values of a header field, in their order. -/
def Headers.getAll (h : Headers) (name : String) : List String :=
  (h.filter fun f => lowercase f.1 == lowercase name).map (·.2)

/-- A request. -/
structure Request where
  method : String
  target : Target
  headers : Headers
  body : String
  /-- Where the request comes from. -/
  remote : String := ""

/-- A response. -/
structure Response where
  status : Nat
  headers : Headers := []
  body : String := ""

namespace Response

/-- The response with more header fields before its own. -/
def withHeaders (r : Response) (h : Headers) : Response := { r with headers := h ++ r.headers }

/-- A character as it stands in an HTML text. -/
def escapeHtmlChar (c : Char) : List Char :=
  match c with
  | '&' => "&amp;".toList
  | '<' => "&lt;".toList
  | '>' => "&gt;".toList
  | '"' => "&#34;".toList
  | '\'' => "&#39;".toList
  | c => [c]

/-- A text in which every byte that is not ASCII is escaped. -/
def escapeNonAscii (s : String) : String :=
  String.ofList (s.toList.flatMap fun c =>
    if c.toNat < 0x80 then [c]
    else (Text.charBytes c).flatMap fun b => '%' :: Text.hexDigits 2 b)

/-- Sends a request to another place for now. Only an answer to `GET` has a text. -/
def redirect (method location : String) : Response :=
  { status := 307
    headers := ("Location", escapeNonAscii location) ::
      if method = "GET" ∨ method = "HEAD" then [("Content-Type", "text/html; charset=utf-8")] else []
    body :=
      if method = "GET" then
        "<a href=\"" ++ String.ofList (location.toList.flatMap escapeHtmlChar) ++
          "\">Temporary Redirect</a>.\n\n"
      else "" }

end Response

/-- The body of a request as far as it was read: its text, and whether that is all of it. -/
structure Body where
  text : List Char
  complete : Bool

namespace Body

/-- A body read without a limit. -/
def whole (s : String) : Body := ⟨s.toList, true⟩

/-- A body read up to a number of bytes. -/
def upTo (limit : Nat) (s : String) : Body :=
  if byteSize s ≤ limit then whole s else ⟨Text.takeBytes limit s.toList, false⟩

end Body

end JavaReview.Http
