import JavaReview.Counts
import JavaReview.Text.Decimal

/-!
Colours of texts on a terminal.
-/

namespace JavaReview.Command

/-- How a text is shown. -/
inductive Style where
  | bold
  | red
  | green
  | yellow
  | magenta
  | cyan
  | gray
  | greenBold
  | cyanBold
deriving DecidableEq, Repr

namespace Style

/-- The numbers that start a style, and those that end it. -/
def numbers : Style → String × String
  | bold => ("1", "22")
  | red => ("31", "0")
  | green => ("32", "0")
  | yellow => ("33", "0")
  | magenta => ("35", "0")
  | cyan => ("36", "0")
  | gray => ("90", "0")
  | greenBold => ("32;1", "0;22")
  | cyanBold => ("36;1", "0;22")

/-- A text in a style, if colours are shown. -/
def paint (colored : Bool) (style : Style) (s : String) : String :=
  if colored then
    "\x1b[" ++ style.numbers.1 ++ "m" ++ s ++ "\x1b[" ++ style.numbers.2 ++ "m"
  else s

end Style

/-- A text filled with spaces at its end up to a number of characters. -/
def padRight (width : Nat) (s : String) : String :=
  s ++ String.ofList (List.replicate (width - s.length) ' ')

/-- A text filled with spaces at its start up to a number of characters. -/
def padLeft (width : Nat) (s : String) : String :=
  String.ofList (List.replicate (width - s.length) ' ') ++ s

/-- A count with its label; what does not occur is gray. -/
def countText (colored : Bool) (n : Int) (label : String) (style : Style) : String :=
  Style.paint colored (if n = 0 then .gray else style) (decimal n ++ " " ++ label)

/-- Counts in a line. -/
def countsText (colored : Bool) (c : Counts) : String :=
  String.intercalate ", " [countText colored c.errors "errors" .red,
    countText colored c.warnings "warnings" .yellow,
    countText colored c.optimizations "optimizations" .cyan,
    countText colored c.security "security" .magenta] ++ " (" ++ decimal c.total ++ " total)"

end JavaReview.Command
