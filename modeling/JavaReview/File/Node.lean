/-!
Files and directories. A node is reached by the names that lead to it from the node above.
-/

namespace JavaReview

/-- A file with its text, or a directory with its entries by name. -/
inductive FileNode where
  | file (text : String)
  | dir (entries : List (String × FileNode))

namespace FileNode

/-- The directory without entries. -/
def empty : FileNode := .dir []

/-- The entry of a name. -/
def child? (name : String) : List (String × FileNode) → Option FileNode
  | [] => none
  | (n, t) :: r => if n = name then some t else child? name r

/-- The entries with the one of a name put in place, at the end if it is new. -/
def putChild (name : String) (t : FileNode) : List (String × FileNode) → List (String × FileNode)
  | [] => [(name, t)]
  | (n, u) :: r => if n = name then (name, t) :: r else (n, u) :: putChild name t r

/-- The node below another that names lead to. -/
def get? : FileNode → List String → Option FileNode
  | t, [] => some t
  | .file _, _ :: _ => none
  | .dir es, n :: r => (child? n es).bind fun t => get? t r

/-- The node with another put at the end of the names. Directories on the way are made if they are
absent, and nothing changes if a file is in the way. -/
def put : FileNode → List String → FileNode → FileNode
  | _, [], node => node
  | .file text, _ :: _, _ => .file text
  | .dir es, n :: r, node => .dir (putChild n (put ((child? n es).getD empty) r node) es)

/-- The node without the file at the end of the names. -/
def remove : FileNode → List String → FileNode
  | .dir es, [n] => .dir (es.filter fun e => e.1 ≠ n || !isFile e.2)
  | .dir es, n :: r =>
    match child? n es with
    | some t => .dir (putChild n (remove t r) es)
    | none => .dir es
  | t, _ => t
where
  /-- Whether a node is a file. -/
  isFile : FileNode → Bool
    | .file _ => true
    | .dir _ => false

/-- Whether the node is a directory. -/
def isDir : FileNode → Bool
  | .file _ => false
  | .dir _ => true

/-- How deep directories are nested in a node. -/
def depth : FileNode → Nat
  | .file _ => 0
  | .dir es => depthOf es + 1
where
  /-- How deep directories are nested in entries. -/
  depthOf : List (String × FileNode) → Nat
    | [] => 0
    | (_, t) :: r => max (depth t) (depthOf r)

/-- The names of the files below a node, each led by the names of the directories above it. -/
def files : FileNode → List (List String)
  | .file _ => [[]]
  | .dir es => filesOf es
where
  /-- The files below entries. -/
  filesOf : List (String × FileNode) → List (List String)
    | [] => []
    | (n, t) :: r => (files t).map (n :: ·) ++ filesOf r

end FileNode

end JavaReview
