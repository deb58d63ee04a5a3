/-!
Text inside HTML. The five characters that could be read as markup are written as entities.
-/

namespace JavaReview.Html

/-- A character as it stands in a page. -/
def escapeChar (c : Char) : List Char :=
  if c = '&' then "&amp;".toList
  else if c = '\'' then "&#39;".toList
  else if c = '<' then "&lt;".toList
  else if c = '>' then "&gt;".toList
  else if c = '"' then "&#34;".toList
  else [c]

/-- A text as it stands in a page. -/
def escape (s : String) : String := String.ofList (s.toList.flatMap escapeChar)

end JavaReview.Html
