import JavaReview.Pattern.OnePass
import JavaReview.Pattern.Parse

/-!
Looking for a pattern in lines. A pattern is looked for at every position of a line. If its program is
one-pass, the code points that it must start with are compared with the start of the line as text, and
in a text a code point that is no character reads as the replacement character; elsewhere such a code
point is found nowhere.
-/

namespace JavaReview.Pattern

/-- What a pattern is looked for with: the pattern, and the text that lines must start with, if there is
such, with the rest of the program that follows it. -/
structure Matcher where
  pattern : Pattern
  start : Option (List Char × Program × Nat) := none

namespace Matcher

/-- Whether a code point is a character. -/
def isCharacter (n : Nat) : Bool := n < 0xD800 || 0xDFFF < n

/-- The character that a code point reads as in a text. -/
def readsAs (n : Nat) : Char := if isCharacter n then Char.ofNat n else '�'

/-- Trees above this size have no one-pass program. -/
def sizeLimit : Nat := 100000

/-- The text that a line must start with, if the program of a tree is one-pass and its start has code
points that are no characters. -/
def startOf? (t : Tree) : Option (List Char × Program × Nat) :=
  if (t.weigh ∅).1 > sizeLimit then none
  else
    let p := Program.ofPlain (.ofTree t)
    let (codes, next) := p.fixedStart
    if codes.all isCharacter || !p.isOnePass then none else some (codes.map readsAs, p, next)

/-- Reads a pattern. -/
def ofText (s : List Char) : Except Error Matcher := do
  let t ← parse s
  return { pattern := t.toPattern, start := startOf? t }

/-- Whether the pattern is found in a line. -/
def findsIn (m : Matcher) (line : List Char) : Bool :=
  match m.start with
  | none => m.pattern.matchesIn line
  | some (start, program, next) =>
    match Text.eat? start line with
    | none => false
    | some rest => program.runFrom start.length start.getLast? [next] rest

end Matcher

end JavaReview.Pattern
