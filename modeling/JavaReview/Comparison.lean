import JavaReview.Review.Json
import JavaReview.Text.Decimal

/-!
Comparing the findings of two reviews. Findings are matched by a key made of rule, title and line; of
findings with one key the first of one review is matched with the first of the other, the second with
the second, and so on.
-/

namespace JavaReview

namespace Comparison

/-- A text without the white space around it and in upper case. -/
def normalized (s : String) : String := uppercase (trimmed s)

/-- What findings are matched by. -/
def key (f : Finding) : String :=
  normalized f.rule ++ "|" ++ normalized f.title ++ "|" ++ decimal f.line

/-- The key of the `n`-th finding with one key: from the second on it ends in a number. -/
def numberedKey (k : String) (n : Nat) : String := if n ≤ 1 then k else k ++ "#" ++ decimal n

/-- The first numbered key that is not taken, counted from `n`. There is one among the first
`bound + 1`, if `bound` keys are taken. -/
def freeKey (taken : List String) (k : String) (n : Nat) : Nat → String
  | 0 => numberedKey k n
  | bound + 1 => if numberedKey k n ∈ taken then freeKey taken k (n + 1) bound else numberedKey k n

/-- Findings under their keys; `done` were keyed before. -/
def indexFrom (done : List (String × Finding)) : List Finding → List (String × Finding)
  | [] => done
  | f :: r => indexFrom (done ++ [(freeKey (done.map (·.1)) (key f) 1 done.length, f)]) r

/-- Findings under keys that differ. -/
def index (fs : List Finding) : List (String × Finding) := indexFrom [] fs

/-- A pair of matched findings that differ. -/
structure Change where
  key : String
  base : Finding
  head : Finding
  fields : List String
deriving DecidableEq, Repr

/-- The names of the fields in which matched findings differ. -/
def changedFields (base head : Finding) : List String :=
  (if base.severity = head.severity then [] else ["severity"]) ++
    (if base.category = head.category then [] else ["category"]) ++
    (if trimmed base.description = trimmed head.description then [] else ["description"])

/-- The pair of a keyed finding and the one it is matched with, if they differ. -/
def change? (base : List (String × Finding)) (e : String × Finding) : Option Change :=
  match base.lookup e.1 with
  | none => none
  | some b =>
    if changedFields b e.2 = [] then none
    else some { key := e.1, base := b, head := e.2, fields := changedFields b e.2 }

/-- The texts of a finding in one line, to order findings of one rule at one line. Any order of these would
do: a comparison promises to be sorted by line and rule only. -/
def tieText (f : Finding) : String :=
  let nul := String.ofList [Char.ofNat 0]
  f.title ++ nul ++ f.description ++ nul ++ f.suggestion ++ nul ++ f.category.name ++ nul ++
    f.severity.name ++ nul ++ paddedDecimal 20 f.id

/-- The order of reports: by line, then by rule, then by the other texts. -/
def inOrder (a b : Finding) : Bool :=
  if a.line ≠ b.line then a.line < b.line
  else if a.rule ≠ b.rule then a.rule < b.rule
  else tieText a ≤ tieText b

/-- The keyed findings that the other list has no match for. -/
def unmatched (fs others : List (String × Finding)) : List Finding :=
  ((fs.filter fun e => (others.lookup e.1).isNone).map (·.2)).mergeSort inOrder

end Comparison

/-- The difference between the findings of two reviews. -/
structure Comparison where
  baseId : Int
  headId : Int
  new : List Finding
  removed : List Finding
  changed : List Comparison.Change
deriving DecidableEq, Repr

namespace Comparison

/-- Compares two reviews. -/
def ofReviews (base head : Review) : Comparison :=
  let bs := index base.findings
  let hs := index head.findings
  { baseId := base.id
    headId := head.id
    new := unmatched hs bs
    removed := unmatched bs hs
    changed := (hs.filterMap (change? bs)).mergeSort fun a b => a.key ≤ b.key }

/-- A change as an object. -/
def Change.toJson (c : Change) : Json :=
  .obj [("key", .str c.key),
    ("base", c.base.toJson),
    ("head", c.head.toJson),
    ("fields_changed", .arr (c.fields.map .str))]

/-- A list as an array, or `null` if it is empty. -/
def listJson {α : Type} (f : α → Json) (l : List α) : Json :=
  if l.isEmpty then .null else .arr (l.map f)

/-- A comparison as an object. -/
def toJson (c : Comparison) : Json :=
  .obj [("base_id", .int c.baseId),
    ("head_id", .int c.headId),
    ("summary", .obj [("new", .int c.new.length), ("removed", .int c.removed.length),
      ("changed", .int c.changed.length)]),
    ("new", listJson Finding.toJson c.new),
    ("removed", listJson Finding.toJson c.removed),
    ("changed", listJson Change.toJson c.changed)]

end Comparison

end JavaReview
