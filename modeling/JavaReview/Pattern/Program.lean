import JavaReview.Pattern.Tree

/-!
Patterns as programs: numbered instructions, each of which says where to go on. Bounded repetitions
are written out, and a repetition of a repetition is one. A program is run by following all
instructions that can be reached at a position at once.
-/

namespace JavaReview.Pattern

open Text.Unicode

/-- A pattern without bounded repetitions. -/
inductive Plain where
  | empty
  | text (codes : List Nat) (ignoreCase : Bool)
  | oneOf (set : Ranges)
  | assert (a : Assertion)
  | capture (p : Plain)
  | star (ungreedy : Bool) (p : Plain)
  | plus (ungreedy : Bool) (p : Plain)
  | opt (ungreedy : Bool) (p : Plain)
  | concat (ps : List Plain)
  | choice (ps : List Plain)

namespace Plain

/-- Any number of times; the empty pattern and such a repetition stay as they are. -/
def many (ungreedy : Bool) : Plain → Plain
  | empty => empty
  | star u p => if u = ungreedy then star u p else star ungreedy (star u p)
  | p => star ungreedy p

/-- Once or more often; the empty pattern and such a repetition stay as they are. -/
def oneOrMore (ungreedy : Bool) : Plain → Plain
  | empty => empty
  | plus u p => if u = ungreedy then plus u p else plus ungreedy (plus u p)
  | p => plus ungreedy p

/-- Once or not at all; the empty pattern and such an option stay as they are. -/
def maybe (ungreedy : Bool) : Plain → Plain
  | empty => empty
  | opt u p => if u = ungreedy then opt u p else opt ungreedy (opt u p)
  | p => opt ungreedy p

/-- Up to `n + 1` times, each time only after the one before. -/
def upTo (ungreedy : Bool) (p : Plain) : Nat → Plain
  | 0 => maybe ungreedy p
  | n + 1 => maybe ungreedy (concat [p, upTo ungreedy p n])

/-- A number of times within bounds, written out. -/
def repeated (min : Nat) (max : Option Nat) (ungreedy : Bool) (p : Plain) : Plain :=
  match max with
  | none =>
    if min = 0 then many ungreedy p
    else if min = 1 then oneOrMore ungreedy p
    else concat (List.replicate (min - 1) p ++ [oneOrMore ungreedy p])
  | some max =>
    if max = 0 then empty
    else if min = 1 && max = 1 then p
    else if max > min then
      let rest := upTo ungreedy p (max - min - 1)
      if min = 0 then rest else concat (List.replicate min p ++ [rest])
    else concat (List.replicate min p)

mutual

/-- A tree with its bounded repetitions written out. -/
def ofTree : Tree → Plain
  | .node _ op ps =>
    match op with
    | .empty | .openMark .. | .barMark => empty
    | .text codes flags => text codes.toList flags.ignoreCase
    | .oneOf set => oneOf set
    | .notNewline => oneOf notNewlineRanges
    | .any => oneOf anyRanges
    | .assert a => assert a
    | .capture => capture (ofFirst ps)
    | .star u => many u (ofFirst ps)
    | .plus u => oneOrMore u (ofFirst ps)
    | .opt u => maybe u (ofFirst ps)
    | .repeated min max u => repeated min max u (ofFirst ps)
    | .concat => concat (ofTrees ps)
    | .choice => choice (ofTrees ps)

/-- The first of some trees. -/
def ofFirst : List Tree → Plain
  | [] => empty
  | t :: _ => ofTree t

/-- Every one of some trees. -/
def ofTrees : List Tree → List Plain
  | [] => []
  | t :: ts => ofTree t :: ofTrees ts

end

end Plain

/-- An instruction. A character instruction that stands for one code point alone, up to nothing, knows
it. -/
inductive Inst where
  | fail
  | done
  | skip (captures : Bool) (next : Nat)
  | assert (a : Assertion) (next : Nat)
  | char (set : Ranges) (code : Option Nat) (next : Nat)
  | fork (first second : Nat)

/-- Instructions by number; the first one fails. -/
structure Program where
  insts : Array Inst
  start : Nat

namespace Program

/-- A part of a program that is being written: where it starts, the ends that are still open, each an
instruction and which way out of it, and whether it can match nothing. It fails if it starts at the
instruction that fails. -/
structure Piece where
  start : Nat := 0
  ends : List (Nat × Bool) := []
  nullable : Bool := false

/-- A step of writing a program. -/
abbrev Writer := StateM (Array Inst)

/-- A new instruction. -/
def write (i : Inst) : Writer Nat := modifyGet fun p => (p.size, p.push i)

/-- Lets a way out of an instruction go on at another. -/
def Inst.goTo (target : Nat) (second : Bool) : Inst → Inst
  | .skip c _ => .skip c target
  | .assert a _ => .assert a target
  | .char s k _ => .char s k target
  | .fork a b => if second then .fork a target else .fork target b
  | i => i

/-- Lets open ends go on at an instruction. -/
def patch (ends : List (Nat × Bool)) (target : Nat) : Writer Unit :=
  modify fun p => ends.foldl (fun p e => p.modify e.1 (Inst.goTo target e.2)) p

/-- An instruction with one way out. -/
def single (i : Inst) (nullable : Bool) : Writer Piece := do
  let n ← write i
  return { start := n, ends := [(n, false)], nullable }

/-- One piece after another. -/
def cat (f g : Piece) : Writer Piece := do
  if f.start = 0 || g.start = 0 then return {}
  patch f.ends g.start
  return { start := f.start, ends := g.ends, nullable := f.nullable && g.nullable }

/-- One piece or another. -/
def alt (f g : Piece) : Writer Piece := do
  if f.start = 0 then return g
  if g.start = 0 then return f
  let n ← write (.fork f.start g.start)
  return { start := n, ends := f.ends ++ g.ends, nullable := f.nullable || g.nullable }

/-- A fork between a piece and an open end. -/
def branch (ungreedy : Bool) (f : Piece) : Writer (Nat × (Nat × Bool)) := do
  let n ← write (if ungreedy then .fork 0 f.start else .fork f.start 0)
  return (n, (n, !ungreedy))

/-- A piece that is repeated, entered at the fork after it. -/
def loop (ungreedy : Bool) (f : Piece) : Writer Piece := do
  let (n, out) ← branch ungreedy f
  patch f.ends n
  return { start := n, ends := [out], nullable := true }

/-- A piece once or more often. -/
def plus (ungreedy : Bool) (f : Piece) : Writer Piece := do
  let l ← loop ungreedy f
  return { start := f.start, ends := l.ends, nullable := f.nullable }

/-- A piece once or not at all. -/
def opt (ungreedy : Bool) (f : Piece) : Writer Piece := do
  let (n, out) ← branch ungreedy f
  return { start := n, ends := out :: f.ends, nullable := true }

/-- A piece any number of times. -/
def star (ungreedy : Bool) (f : Piece) : Writer Piece := do
  if f.nullable then opt ungreedy (← plus ungreedy f) else loop ungreedy f

/-- A code point, or all that differ from it at most in case. -/
def code (ignoreCase : Bool) (n : Nat) : Writer Piece :=
  match ignoreCase, caseOrbit n with
  | true, a :: b :: r => single (.char ⟨(a :: b :: r).map fun m => (m, m)⟩ none 0) false
  | _, _ => single (.char (.span n n) (some n) 0) false

mutual

/-- Writes a pattern. -/
def piece : Plain → Writer Piece
  | .empty => single (.skip false 0) true
  | .text codes ignoreCase =>
    match codes with
    | [] => single (.skip false 0) true
    | c :: cs => do cs.foldlM (fun f c => do cat f (← code ignoreCase c)) (← code ignoreCase c)
  | .oneOf set => single (.char set none 0) false
  | .assert a => single (.assert a 0) true
  | .capture p => do
    let before ← single (.skip true 0) true
    let f ← piece p
    let after ← single (.skip true 0) true
    cat (← cat before f) after
  | .star u p => do star u (← piece p)
  | .plus u p => do plus u (← piece p)
  | .opt u p => do opt u (← piece p)
  | .concat [] => single (.skip false 0) true
  | .concat (p :: ps) => do sequence (← piece p) ps
  | .choice ps => choices {} ps

/-- Writes patterns after a piece. -/
def sequence (f : Piece) : List Plain → Writer Piece
  | [] => return f
  | p :: ps => do sequence (← cat f (← piece p)) ps

/-- Writes patterns beside a piece. -/
def choices (f : Piece) : List Plain → Writer Piece
  | [] => return f
  | p :: ps => do choices (← alt f (← piece p)) ps

end

/-- The program of a pattern. -/
def ofPlain (p : Plain) : Program :=
  let write : Writer Nat := do
    let f ← piece p
    let n ← write .done
    patch f.ends n
    return f.start
  let (start, insts) := write.run #[.fail]
  { insts, start }

/-- An instruction by its number. -/
def inst (p : Program) (n : Nat) : Inst := (p.insts[n]?).getD .fail

/-! ## Running -/

/-- All instructions that can be reached at a position without reading on, those of `todo` being among
them. Every round takes one off `todo` and adds two at most for one that is new. -/
def reach (p : Program) (c : Cursor) : Nat → List Nat → List Nat → List Nat
  | 0, _, seen => seen
  | _, [], seen => seen
  | rounds + 1, n :: todo, seen =>
    if seen.contains n then reach p c rounds todo seen
    else
      let next := match p.inst n with
        | .skip _ m => [m]
        | .assert a m => if c.holds a then [m] else []
        | .fork a b => [a, b]
        | _ => []
      reach p c rounds (next ++ todo) (n :: seen)

/-- Whether a run ends well that is at some instructions before the character at the head of `rest`. -/
def runFrom (p : Program) (pos : Nat) (prev : Option Char) (todo : List Nat) : List Char → Bool
  | [] => (reached []).any isDone
  | x :: r =>
    let here := reached (x :: r)
    here.any isDone || (!here.isEmpty && runFrom p (pos + 1) (some x) (here.filterMap (step x)) r)
where
  /-- The instructions that can be reached before a rest of the text. -/
  reached (rest : List Char) : List Nat :=
    reach p ⟨pos, prev, rest⟩ (2 * p.insts.size + todo.length + 1) todo []
  /-- Whether an instruction ends the run. -/
  isDone (n : Nat) : Bool :=
    match p.inst n with
    | .done => true
    | _ => false
  /-- Where a character leads from an instruction. -/
  step (x : Char) (n : Nat) : Option Nat :=
    match p.inst n with
    | .char set _ m => if set.contains x then some m else none
    | _ => none

end Program

end JavaReview.Pattern
