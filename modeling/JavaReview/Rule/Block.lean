import JavaReview.Source.Lines
import JavaReview.Text.Space

/-!
What the rules that follow blocks know about a line. String literals are not told apart from code, so
braces and slashes in them count.
-/

namespace JavaReview.Line

open Text

/-- The part of a line before a line comment. -/
def code (l : Line) : Line := before ['/', '/'] l

/-- The code of a line without the white space around it. -/
def statement (l : Line) : Line := trim (code l)

/-- The number of opening braces less that of closing ones. -/
def braceDelta (l : Line) : Int := (l.count '\x7b' : Int) - (l.count '\x7d' : Int)

/-- A `for` or `while` with its parenthesis at most one blank away. -/
def hasLoopHeader (l : Line) : Bool :=
  contains "for(".toList l || contains "for (".toList l || contains "while(".toList l ||
    contains "while (".toList l

end JavaReview.Line
