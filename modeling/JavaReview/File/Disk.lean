import JavaReview.File.Tree

/-!
What a program sees of files: paths can be looked up, directories listed and files read, and each of these
can fail. A path can lead to a link, which looking up follows or not.
-/

namespace JavaReview

/-- What looking up a path tells. -/
structure FileInfo where
  isDir : Bool
  /-- The size of a file, in bytes. -/
  size : Nat
deriving DecidableEq, Repr

/-- Files as a program sees them. -/
structure Disk where
  /-- What a path leads to in the end. -/
  stat : String → Except FileError FileInfo
  /-- What is at a path itself, which may be a link. -/
  lstat : String → Except FileError FileInfo
  /-- The entries of a directory in the order of their names, each with its name and whether it is a
  directory itself and no link to one, and what went wrong. -/
  list : String → List (String × Bool) × Option FileError
  /-- The text of a file. -/
  read : String → Except FileError String
  /-- How many directories can be passed one after the other on the way down from a path. -/
  depth : String → Nat

namespace FileTree

/-- What is told of a node. -/
def infoOf : FileNode → FileInfo
  | .file text => ⟨false, byteSize text⟩
  | .dir _ => ⟨true, 0⟩

/-- A tree as a program sees it. There are no links in it. -/
def disk (tree : FileTree) : Disk where
  stat path := (tree.stat path).map infoOf
  lstat path :=
    match tree.locate path with
    | .error e => .error ⟨"lstat", path, e⟩
    | .ok (_, t) => .ok (infoOf t)
  list path :=
    match tree.list path with
    | .error e => ([], some e)
    | .ok es => (es.map fun e => (e.1, e.2.isDir), none)
  read := tree.read
  depth path :=
    match tree.locate path with
    | .error _ => 0
    | .ok (_, t) => t.depth

end FileTree

end JavaReview
