import JavaReview.Text.Unicode.CaseMap

/-!
Upper and lower case, one character at a time. ASCII letters are mapped by arithmetic and all others
by the simple mappings of the Unicode character database. Two texts are equal up to case if their
characters have the same simple folding.
-/

namespace JavaReview.Text

open Unicode

/-- The image of a character under the first run that covers it. -/
def mapByRuns (runs : List CaseRun) (c : Char) : Char :=
  match runs.findSome? (·.image? c.toNat) with
  | some n => Char.ofNat n
  | none => c

/-- The uppercase form of a character. -/
def upper (c : Char) : Char :=
  if c.toNat < 0x80 then c.toUpper else mapByRuns upperRuns c

/-- The lowercase form of a character. -/
def lower (c : Char) : Char :=
  if c.toNat < 0x80 then c.toLower else mapByRuns lowerRuns c

/-- The character that stands for all case variants of `c`. -/
def fold (c : Char) : Char :=
  if c.toNat < 0x80 then c.toLower else mapByRuns foldRuns c

/-- Whether two characters differ at most in case. -/
def sameFold (a b : Char) : Bool := fold a == fold b

/-- Whether two texts differ at most in case. -/
def equalFold (s t : List Char) : Bool := s.map fold == t.map fold

/-- What follows `p`, if the text starts with it up to case. -/
def eatFold? : List Char → List Char → Option (List Char)
  | [], s => some s
  | _ :: _, [] => none
  | a :: p, c :: s => if sameFold a c then eatFold? p s else none

end JavaReview.Text

namespace JavaReview

/-- The text in upper case. -/
def uppercase (s : String) : String := String.ofList (s.toList.map Text.upper)

/-- The text in lower case. -/
def lowercase (s : String) : String := String.ofList (s.toList.map Text.lower)

end JavaReview
