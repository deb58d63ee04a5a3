import JavaReview.Pattern.Basic
import JavaReview.Pattern.CharClass
import Std.Data.HashMap

/-!
Patterns as trees, the way they are read: texts and classes at the leaves, sequences and choices of any
number of parts. A tree that is too high or too large is refused, so its height and its size are
measured here. Every node takes a cell of its own, and the sizes that were found are kept by cell.
-/

namespace JavaReview.Pattern

open Text.Unicode

/-- How the following text is read. -/
structure Flags where
  ignoreCase : Bool := false
  dotAll : Bool := false
  multiLine : Bool := false
  ungreedy : Bool := false
deriving DecidableEq

/-- What a node stands for, its parts aside. The last two stand for nothing yet: they mark where a
group was opened, with the flags to go back to, and where a choice goes on. -/
inductive Op where
  | empty
  | text (codes : Array Nat) (flags : Flags)
  | oneOf (set : Ranges)
  | notNewline
  | any
  | assert (a : Assertion)
  | capture
  | star (ungreedy : Bool)
  | plus (ungreedy : Bool)
  | opt (ungreedy : Bool)
  | repeated (min : Nat) (max : Option Nat) (ungreedy : Bool)
  | concat
  | choice
  | openMark (captures : Bool) (outer : Flags)
  | barMark
deriving DecidableEq

/-- A pattern as a tree. -/
inductive Tree where
  | node (cell : Nat) (op : Op) (parts : List Tree)

namespace Tree

/-- The cell of the root. -/
def cell : Tree → Nat
  | node c _ _ => c

/-- What the root stands for. -/
def op : Tree → Op
  | node _ o _ => o

/-- The parts of the root. -/
def parts : Tree → List Tree
  | node _ _ ps => ps

/-- A node without parts. -/
def leaf (cell : Nat) (op : Op) : Tree := node cell op []

/-- Whether a tree is a mark. -/
def isMark (t : Tree) : Bool :=
  match t.op with
  | .openMark .. | .barMark => true
  | _ => false

/-- Whether a tree matches single characters: a text of one, a class, a dot. -/
def isClass (t : Tree) : Bool :=
  match t.op with
  | .text codes _ => codes.size = 1
  | .oneOf _ | .notNewline | .any => true
  | _ => false

/-- How many code points and ends of ranges a node holds. -/
def width (t : Tree) : Nat :=
  match t.op with
  | .text codes _ => codes.size
  | .oneOf set => 2 * set.spans.length
  | _ => 0

/-! ## Measures -/

mutual

/-- The number of nodes on the longest way down. -/
def height : Tree → Nat
  | node _ _ ps => heights ps + 1

/-- The greatest height of some trees. -/
def heights : List Tree → Nat
  | [] => 0
  | t :: ts => max (height t) (heights ts)

end

mutual

/-- Whether no part of a tree is repeated more than `limit` times, nested repetitions multiplied. -/
def repeatsWithin (limit : Nat) : Tree → Bool
  | node _ (.repeated min max _) ps =>
    match max with
    | some 0 => true
    | some m => m ≤ limit && allRepeatWithin (limit / m) ps
    | none => min ≤ limit && allRepeatWithin (if min = 0 then limit else limit / min) ps
  | node _ _ ps => allRepeatWithin limit ps

/-- Whether no part of some trees is repeated more than `limit` times. -/
def allRepeatWithin (limit : Nat) : List Tree → Bool
  | [] => true
  | t :: ts => repeatsWithin limit t && allRepeatWithin limit ts

end

/-- The size of a node, given those of its parts: about the number of steps that it takes to write
down what it does, bounded repetitions written out. -/
def sizeOf (op : Op) (parts : List Nat) : Nat :=
  let sum := parts.foldl (· + ·) 0
  max 1 <|
    match op with
    | .text codes _ => codes.size
    | .capture | .star _ => 2 + sum
    | .plus _ | .opt _ => 1 + sum
    | .concat => sum
    | .choice => sum + (parts.length - 1)
    | .repeated min none _ => if min = 0 then 2 + sum else 1 + min * sum
    | .repeated min (some max) _ => max * sum + (max - min)
    | _ => 0

/-- Sizes by cell. -/
abbrev Sizes := Std.HashMap Nat Nat

mutual

/-- The size of a tree, from the sizes that are known of its parts. What is found is kept. -/
def weigh (known : Sizes) : Tree → Nat × Sizes
  | node c o ps =>
    let (sizes, known) := weighParts known ps
    let size := sizeOf o sizes
    (size, known.insert c size)

/-- The sizes of parts; those that are known are not looked into. -/
def weighParts (known : Sizes) : List Tree → List Nat × Sizes
  | [] => ([], known)
  | t :: ts =>
    let (n, known) :=
      match known[t.cell]? with
      | some n => (n, known)
      | none => weigh known t
    let (ns, known) := weighParts known ts
    (n :: ns, known)

end

/-! ## Matching -/

mutual

/-- The pattern of a tree. -/
def toPattern : Tree → Pattern
  | node _ op ps =>
    match op with
    | .empty | .openMark .. | .barMark => .empty
    | .text codes flags => codes.foldr (fun n p => .seq (.char (code n flags.ignoreCase)) p) .empty
    | .oneOf set => .char set
    | .notNewline => .char notNewlineRanges
    | .any => .char anyRanges
    | .assert a => .assert a
    | .capture | .concat => sequence ps
    | .star _ => .star (sequence ps)
    | .plus _ => .atLeast 1 (sequence ps)
    | .opt _ => .opt (sequence ps)
    | .repeated min none _ => .atLeast min (sequence ps)
    | .repeated min (some max) _ => .between min max (sequence ps)
    | .choice => choices ps
where
  /-- A code point, or all that differ from it at most in case. -/
  code (n : Nat) (ignoreCase : Bool) : Ranges :=
    if ignoreCase then ⟨(caseOrbit n).map fun m => (m, m)⟩ else .span n n

/-- The pattern of trees one after another. -/
def sequence : List Tree → Pattern
  | [] => .empty
  | [t] => toPattern t
  | t :: ts => .seq (toPattern t) (sequence ts)

/-- The pattern of one of some trees, of which there is one at least. -/
def choices : List Tree → Pattern
  | [] => .empty
  | [t] => toPattern t
  | t :: ts => .alt (toPattern t) (choices ts)

end

end Tree

end JavaReview.Pattern
