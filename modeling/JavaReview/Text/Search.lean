/-!
Searching and cutting text. All functions read a text as the list of its characters and recurse on
it, so that what they find can be said by the parts before and after it.
-/

namespace JavaReview.Text

/-- Whether `needle` occurs somewhere in the text. -/
def contains (needle : List Char) : List Char → Bool
  | [] => needle.isEmpty
  | c :: r => needle.isPrefixOf (c :: r) || contains needle r

/-- What follows `p`, if the text starts with it. -/
def eat? : List Char → List Char → Option (List Char)
  | [], s => some s
  | _ :: _, [] => none
  | a :: p, c :: s => if a = c then eat? p s else none

/-- The text without `p` at its start, if it stands there. -/
def dropStart (p s : List Char) : List Char := (eat? p s).getD s

/-- The text without `p` at its end, if it stands there. -/
def dropEnd (p s : List Char) : List Char :=
  if p.isSuffixOf s then s.take (s.length - p.length) else s

/-- The text before the first occurrence of `needle`, or all of it. -/
def before (needle : List Char) : List Char → List Char
  | [] => []
  | c :: r => if needle.isPrefixOf (c :: r) then [] else c :: before needle r

/-- The text after the first `x`, if there is one. -/
def after? (x : Char) : List Char → Option (List Char)
  | [] => none
  | c :: r => if c = x then some r else after? x r

/-- The text after the last `x`, if there is one. -/
def afterLast? (x : Char) : List Char → Option (List Char)
  | [] => none
  | c :: r =>
    match afterLast? x r with
    | some t => some t
    | none => if c = x then some r else none

/-- The pieces between the separators; there is one more of them than of separators. -/
def splitOn (sep : Char) : List Char → List (List Char)
  | [] => [[]]
  | c :: r =>
    if c = sep then [] :: splitOn sep r
    else
      match splitOn sep r with
      | [] => [[c]]
      | p :: ps => (c :: p) :: ps

/-- The pieces joined with a separator between them. -/
def joinWith (sep : List Char) : List (List Char) → List Char
  | [] => []
  | [p] => p
  | p :: q :: ps => p ++ sep ++ joinWith sep (q :: ps)

@[simp] theorem splitOn_ne_nil (sep : Char) (s : List Char) : splitOn sep s ≠ [] := by
  cases s with
  | nil => simp [splitOn]
  | cons c r =>
    simp only [splitOn]
    split
    · simp
    · split <;> simp

@[simp] theorem eat?_append (p s : List Char) : eat? p (p ++ s) = some s := by
  induction p with
  | nil => rfl
  | cons a p ih => simp [eat?, ih]

theorem eq_append_of_eat? {p s r : List Char} (h : eat? p s = some r) : s = p ++ r := by
  induction p generalizing s with
  | nil => simpa [eat?] using h
  | cons a p ih =>
    cases s with
    | nil => simp [eat?] at h
    | cons c s =>
      simp only [eat?] at h
      split at h
      · next hac => simp [hac, ih h]
      · simp at h

end JavaReview.Text
