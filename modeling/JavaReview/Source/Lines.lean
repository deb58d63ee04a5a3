import JavaReview.Text.Search

/-!
The lines of a source text. A line ends at a line feed, and a carriage return right before it does
not belong to the line. Empty lines at the end of the text are no lines.
-/

namespace JavaReview

/-- The characters of a line, without its end. -/
abbrev Line := List Char

namespace Source

/-- The list without the empty pieces at its end. -/
def dropTrailingEmpty (ls : List Line) : List Line := (ls.reverse.dropWhile List.isEmpty).reverse

/-- The lines of a text. -/
def lines (s : List Char) : List Line :=
  (dropTrailingEmpty (Text.splitOn '\n' s)).map (Text.dropEnd ['\r'])

end Source

end JavaReview
