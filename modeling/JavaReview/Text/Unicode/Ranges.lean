/-!
Sets of code points. A set is kept as closed intervals, and its written form lists them in
hexadecimal: `41-5A 61-7A AA`.
-/

namespace JavaReview.Text.Unicode

/-- The value of a hexadecimal digit of either case. -/
def hexDigit? (c : Char) : Option Nat :=
  let n := c.toNat
  if 0x30 ≤ n ∧ n ≤ 0x39 then some (n - 0x30)
  else if 0x41 ≤ n ∧ n ≤ 0x46 then some (n - 0x41 + 10)
  else if 0x61 ≤ n ∧ n ≤ 0x66 then some (n - 0x61 + 10)
  else none

/-- Reads hexadecimal digits up to the first other character, onto the value read so far. -/
def hexNumber (acc : Nat) : List Char → Nat × List Char
  | [] => (acc, [])
  | c :: r =>
    match hexDigit? c with
    | some d => hexNumber (16 * acc + d) r
    | none => (acc, c :: r)

/-- The pieces between blanks and line ends; `cur` holds the piece being read, last character first. -/
def splitBlanksFrom (cur : List Char) : List Char → List (List Char)
  | [] => if cur.isEmpty then [] else [cur.reverse]
  | c :: r =>
    if c = ' ' || c = '\n' then (if cur.isEmpty then [] else [cur.reverse]) ++ splitBlanksFrom [] r
    else splitBlanksFrom (c :: cur) r

/-- The non-empty pieces between blanks and line ends. -/
def splitBlanks (s : List Char) : List (List Char) := splitBlanksFrom [] s

/-- A set of code points, as closed intervals. -/
structure Ranges where
  spans : List (Nat × Nat)
deriving Repr, DecidableEq

namespace Ranges

/-- The set without members. -/
def empty : Ranges := ⟨[]⟩

/-- All code points from `lo` to `hi`. -/
def span (lo hi : Nat) : Ranges := ⟨[(lo, hi)]⟩

/-- The members of either set. -/
def union (a b : Ranges) : Ranges := ⟨a.spans ++ b.spans⟩

/-- Whether the set has this code point. -/
def has (r : Ranges) (n : Nat) : Bool := r.spans.any fun s => s.1 ≤ n && n ≤ s.2

/-- Whether the set has this character. -/
def contains (r : Ranges) (c : Char) : Bool := r.has c.toNat

/-- Intervals that are in order of their starts, with those joined that overlap or touch; `lo` to `hi`
is the one being joined. -/
def joinFrom (lo hi : Nat) : List (Nat × Nat) → List (Nat × Nat)
  | [] => [(lo, hi)]
  | (a, b) :: r => if a ≤ hi + 1 then joinFrom lo (max hi b) r else (lo, hi) :: joinFrom a b r

/-- The set in its one normal form: disjoint intervals in order, none next to another. -/
def normal (r : Ranges) : Ranges :=
  match r.spans.mergeSort fun a b => a.1 ≤ b.1 with
  | [] => empty
  | (lo, hi) :: rest => ⟨joinFrom lo hi rest⟩

/-- The last code point. -/
def lastCode : Nat := 0x10FFFF

/-- The code points from `lo` on that are in none of some intervals, which are in normal form. -/
def gapsFrom (lo : Nat) : List (Nat × Nat) → List (Nat × Nat)
  | [] => if lo ≤ lastCode then [(lo, lastCode)] else []
  | (a, b) :: r => (if lo < a then [(lo, a - 1)] else []) ++ gapsFrom (b + 1) r

/-- All code points that are not in the set. -/
def complement (r : Ranges) : Ranges := ⟨gapsFrom 0 r.normal.spans⟩

/-- Reads one interval, `lo-hi` or a single code point. -/
def spanOfText (s : List Char) : Nat × Nat :=
  match hexNumber 0 s with
  | (lo, '-' :: r) => (lo, (hexNumber 0 r).1)
  | (lo, _) => (lo, lo)

/-- Reads intervals separated by blanks or line ends. -/
def ofText (s : String) : Ranges := ⟨(splitBlanks s.toList).map spanOfText⟩

@[simp] theorem has_union (a b : Ranges) (n : Nat) : (a.union b).has n = (a.has n || b.has n) := by
  simp [has, union, List.any_append]

end Ranges

end JavaReview.Text.Unicode
