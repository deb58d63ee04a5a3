import JavaReview.Text.Search

/-!
Paths as texts: components between slashes. Nothing here looks at files.
-/

namespace JavaReview.Path

/-- The components of a path, empty ones included. -/
def components (p : String) : List (List Char) := Text.splitOn '/' p.toList

/-- Whether the path starts at the root. -/
def isAbsolute (p : String) : Bool := p.toList.head? == some '/'

/-- The last component that is not empty: `.` for the empty path, and `/` for slashes alone. -/
def base (p : String) : String :=
  if p = "" then "."
  else
    match (components p).reverse.dropWhile List.isEmpty with
    | [] => "/"
    | c :: _ => String.ofList c

/-- The part of the last component from its last dot on, or nothing if it has no dot. -/
def ext (p : String) : String :=
  let name := (Text.afterLast? '/' p.toList).getD p.toList
  match Text.afterLast? '.' name with
  | none => ""
  | some r => String.ofList ('.' :: r)

/-- One more component of a path under construction, whose components are listed last first. A `..`
takes the one before it away; at the start it stays in a relative path and is dropped in an absolute
one. -/
def cleanStep (absolute : Bool) (done : List (List Char)) (c : List Char) : List (List Char) :=
  if c = [] ∨ c = ['.'] then done
  else if c = ['.', '.'] then
    match done with
    | [] => if absolute then [] else [c]
    | d :: r => if d = ['.', '.'] then c :: done else r
  else c :: done

/-- The shortest path that names the same place by text alone. -/
def clean (p : String) : String :=
  let kept := ((components p).foldl (cleanStep (isAbsolute p)) []).reverse
  let body := Text.joinWith ['/'] kept
  if isAbsolute p then String.ofList ('/' :: body)
  else if body.isEmpty then "." else String.ofList body

/-- The path of a name below a directory. -/
def join (dir name : String) : String :=
  if dir = "" then (if name = "" then "" else clean name)
  else if name = "" then clean dir
  else clean (dir ++ "/" ++ name)

end JavaReview.Path
