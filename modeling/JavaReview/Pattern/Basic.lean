import JavaReview.Text.Unicode.Ranges

/-!
Patterns: regular expressions with assertions. A pattern is matched by following all positions of a
line at once, so the time depends on the length of the line and not on how the pattern can be cut.
-/

namespace JavaReview

/-- What must hold at a position. -/
inductive Pattern.Assertion where
  | textStart
  | textEnd
  | lineStart
  | lineEnd
  | wordBoundary
  | notWordBoundary
deriving DecidableEq, Repr

/-- A regular expression. -/
inductive Pattern where
  | empty
  | char (set : Text.Unicode.Ranges)
  | assert (a : Pattern.Assertion)
  | seq (p q : Pattern)
  | alt (p q : Pattern)
  | star (p : Pattern)
  | opt (p : Pattern)
  | atLeast (min : Nat) (p : Pattern)
  | between (min max : Nat) (p : Pattern)

namespace Pattern

/-- A position in a line: its number, the character before it and the text after it. -/
structure Cursor where
  pos : Nat
  prev : Option Char
  rest : List Char

namespace Cursor

/-- The positions of a text from a given one to the end. -/
def upToEnd (c : Cursor) : List Char → List Cursor
  | [] => [c]
  | x :: r => c :: upToEnd ⟨c.pos + 1, some x, r⟩ r

/-- All positions of a line. -/
def all (line : List Char) : List Cursor := upToEnd ⟨0, none, line⟩ line

/-- The next position, if the character there is in a class. -/
def advance? (set : Text.Unicode.Ranges) (c : Cursor) : Option Cursor :=
  match c.rest with
  | [] => none
  | x :: r => if set.contains x then some ⟨c.pos + 1, some x, r⟩ else none

/-- Whether a word starts or ends at the position. -/
def atWordBoundary (c : Cursor) : Bool := c.prev.any isWord != c.rest.head?.any isWord
where
  /-- Letters, digits and the underscore. -/
  isWord (c : Char) : Bool := c.isAlphanum || c = '_'

/-- Whether an assertion holds at the position. -/
def holds (c : Cursor) : Assertion → Bool
  | .textStart => c.prev.isNone
  | .textEnd => c.rest.isEmpty
  | .lineStart => c.prev.isNone || c.prev == some '\n'
  | .lineEnd => c.rest.isEmpty || c.rest.head? == some '\n'
  | .wordBoundary => c.atWordBoundary
  | .notWordBoundary => !c.atWordBoundary

end Cursor

/-- The positions of either list; both are in order, and so is the result. -/
def merge : List Cursor → List Cursor → List Cursor
  | [], t => t
  | a :: s, t => mergeInto a s (merge s) t
where
  /-- One position and those after it, merged with a list; `later` merges the ones after it. -/
  mergeInto (a : Cursor) (s : List Cursor) (later : List Cursor → List Cursor) :
      List Cursor → List Cursor
    | [] => a :: s
    | b :: t =>
      if a.pos < b.pos then a :: later (b :: t)
      else if a.pos = b.pos then a :: later t
      else b :: mergeInto a s later t

/-- The positions of a list that are not in another; both are in order. -/
def minus : List Cursor → List Cursor → List Cursor
  | [], _ => []
  | a :: s, t =>
    match t.dropWhile (·.pos < a.pos) with
    | [] => a :: s
    | b :: t => if a.pos = b.pos then minus s t else a :: minus s (b :: t)

/-- All positions reached from `seen` by steps; `frontier` are those whose steps were not taken. Each
round reaches a position more, so their number bounds the rounds. -/
def closure (step : List Cursor → List Cursor) :
    Nat → List Cursor → List Cursor → List Cursor
  | 0, seen, _ => seen
  | rounds + 1, seen, frontier =>
    match minus (step frontier) seen with
    | [] => seen
    | new => closure step rounds (merge seen new) new

/-- A number of steps. -/
def times (step : List Cursor → List Cursor) : Nat → List Cursor → List Cursor
  | 0, s => s
  | _ + 1, [] => []
  | n + 1, s => times step n (step s)

/-- At most a number of steps. -/
def upTo (step : List Cursor → List Cursor) : Nat → List Cursor → List Cursor
  | 0, s => s
  | _ + 1, [] => []
  | n + 1, s => merge s (upTo step n (step s))

/-- Where matches of a pattern end that start at one of the positions. A line has `rounds`
positions. -/
def ends (rounds : Nat) : Pattern → List Cursor → List Cursor
  | .empty, s => s
  | .char set, s => s.filterMap (·.advance? set)
  | .assert a, s => s.filter (·.holds a)
  | .seq p q, s => ends rounds q (ends rounds p s)
  | .alt p q, s => merge (ends rounds p s) (ends rounds q s)
  | .star p, s => closure (ends rounds p) rounds s s
  | .opt p, s => merge s (ends rounds p s)
  | .atLeast min p, s =>
    let t := times (ends rounds p) min s
    closure (ends rounds p) rounds t t
  | .between min max p, s => upTo (ends rounds p) (max - min) (times (ends rounds p) min s)

/-- Whether a pattern matches some part of a line. -/
def matchesIn (p : Pattern) (line : List Char) : Bool :=
  !(ends (line.length + 1) p (Cursor.all line)).isEmpty

end Pattern

end JavaReview
