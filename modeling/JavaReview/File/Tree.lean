import JavaReview.File.Node
import JavaReview.Path
import JavaReview.Text.Bytes

/-!
Trees of files and directories. A path is looked up component by component, from the root or from the
working directory. Not everything may be read, and not every directory may be passed; whatever can be
reached can be written.
-/

namespace JavaReview

/-- Why a path leads nowhere. -/
inductive FileFault where
  | absent
  | notDirectory
  | isDirectory
  | nameTooLong
  | invalid
  | present
  | denied
  | other (text : String)
deriving DecidableEq, Repr

namespace FileFault

/-- The text of a fault. -/
def text : FileFault → String
  | absent => "no such file or directory"
  | notDirectory => "not a directory"
  | isDirectory => "is a directory"
  | nameTooLong => "file name too long"
  | invalid => "invalid argument"
  | present => "file exists"
  | denied => "permission denied"
  | other text => text

end FileFault

/-- An action on a path that failed. -/
structure FileError where
  action : String
  path : String
  fault : FileFault
deriving DecidableEq, Repr

namespace FileError

/-- The text of a failure. -/
def message (e : FileError) : String := e.action ++ " " ++ e.path ++ ": " ++ e.fault.text

end FileError

/-- What may be done with a file or a directory: read its text or list its entries, and pass it on the
way to an entry. -/
structure Rights where
  read : Bool := true
  pass : Bool := true
deriving DecidableEq, Repr

/-- Files and directories below a root. -/
structure FileTree where
  root : FileNode := .empty
  /-- The names that lead to the working directory. -/
  workingDir : List String := []
  /-- What may be done at the end of names. -/
  rights : List String → Rights := fun _ => {}

namespace FileTree

/-- The tree with nothing below its root. -/
def empty : FileTree := {}

/-- The longest name of an entry, in bytes. -/
def maxNameBytes : Nat := 255

/-- The longest path, in bytes. -/
def maxPathBytes : Nat := 4095

/-- The tree with the file at the end of the names written anew. -/
def put (tree : FileTree) (place : List String) (node : FileNode) : FileTree :=
  { tree with root := tree.root.put place node }

/-- The tree without the file at the end of the names. -/
def remove (tree : FileTree) (place : List String) : FileTree :=
  { tree with root := tree.root.remove place }

/-- The tree with a node made at the end of the names, with which everything may be done. -/
def make (tree : FileTree) (place : List String) (node : FileNode) : FileTree :=
  { tree with
    root := tree.root.put place node
    rights := fun names => if names = place then {} else tree.rights names }

/-! ## Looking up -/

/-- Nodes above a node, nearest first, each with the name that leads on. -/
abbrev Above := List (String × FileNode)

/-- The names from the root to the node below the ones listed. -/
def namesOf (above : Above) : List String := (above.map (·.1)).reverse

/-- The node one component further, with the nodes above it. -/
def lookup (rights : List String → Rights) (c : String) (above : Above) :
    FileNode → Except FileFault (Above × FileNode)
  | .file _ => .error .notDirectory
  | .dir es =>
    if c = "" then .ok (above, .dir es)
    else if !(rights (namesOf above)).pass then .error .denied
    else if c = "." then .ok (above, .dir es)
    else if c = ".." then
      match above with
      | [] => .ok ([], .dir es)
      | (_, up) :: r => .ok (r, up)
    else if byteSize c > maxNameBytes then .error .nameTooLong
    else
      match FileNode.child? c es with
      | none => .error .absent
      | some t => .ok ((c, .dir es) :: above, t)

/-- Follows components from a node below the ones listed. -/
def follow (rights : List String → Rights) (above : Above) (t : FileNode) :
    List String → Except FileFault (Above × FileNode)
  | [] => .ok (above, t)
  | c :: r =>
    match lookup rights c above t with
    | .error e => .error e
    | .ok (above, t) => follow rights above t r

/-- The node that names lead to, with the nodes above it. -/
def descend (above : Above) : FileNode → List String → Option (Above × FileNode)
  | t, [] => some (above, t)
  | .file _, _ :: _ => none
  | .dir es, n :: r => (FileNode.child? n es).bind fun t => descend ((n, .dir es) :: above) t r

/-- Where looking up a path starts: at the root or in the working directory. -/
def start (tree : FileTree) (path : String) : Except FileFault (Above × FileNode) :=
  match descend [] tree.root (if Path.isAbsolute path then [] else tree.workingDir) with
  | none => .error .absent
  | some s => .ok s

/-- The components of a path that can be looked up. -/
def checkedComponents (path : String) : Except FileFault (List String) :=
  if path.toList.contains (Char.ofNat 0) then .error .invalid
  else if path = "" then .error .absent
  else if byteSize path > maxPathBytes then .error .nameTooLong
  else .ok ((Path.components path).map String.ofList)

/-- Follows components from where looking up a path starts. -/
def followFrom (tree : FileTree) (path : String) (cs : List String) :
    Except FileFault (Above × FileNode) := do
  let (above, t) ← tree.start path
  follow tree.rights above t cs

/-- The names that lead from the root to a path, and the node there. -/
def locate (tree : FileTree) (path : String) : Except FileFault (List String × FileNode) := do
  let (above, t) ← tree.followFrom path (← checkedComponents path)
  return (namesOf above, t)

/-! ## Reading -/

/-- The node at a path. -/
def stat (tree : FileTree) (path : String) : Except FileError FileNode :=
  match tree.locate path with
  | .error e => .error ⟨"stat", path, e⟩
  | .ok (_, t) => .ok t

/-- The node at a path that can be read. -/
def openNode (tree : FileTree) (path : String) : Except FileError FileNode :=
  match tree.locate path with
  | .error e => .error ⟨"open", path, e⟩
  | .ok (place, t) => if (tree.rights place).read then .ok t else .error ⟨"open", path, .denied⟩

/-- The text of the file at a path. -/
def read (tree : FileTree) (path : String) : Except FileError String :=
  match tree.openNode path with
  | .error e => .error e
  | .ok (.file text) => .ok text
  | .ok (.dir _) => .error ⟨"read", path, .isDirectory⟩

/-- The entries of the directory at a path, in the order of their names. -/
def list (tree : FileTree) (path : String) : Except FileError (List (String × FileNode)) :=
  match tree.openNode path with
  | .error e => .error e
  | .ok (.file _) => .error ⟨"open", path, .notDirectory⟩
  | .ok (.dir es) => .ok (es.mergeSort fun a b => a.1 ≤ b.1)

/-! ## Writing -/

/-- Where a path leads: the directory that holds its last component, with the nodes above it, and that
component. -/
def parentOf (tree : FileTree) (path : String) : Except FileFault (Above × FileNode × String) := do
  match (← checkedComponents path).reverse with
  | [] => .error .absent
  | name :: init => do
    let (above, t) ← tree.followFrom path init.reverse
    return (above, t, name)

/-- The names from the root to a name below the nodes listed. -/
def placeBelow (above : Above) (name : String) : List String := namesOf above ++ [name]

/-- What has a name in a directory, or nothing if the name is free. -/
def entry (rights : List String → Rights) (above : Above) (t : FileNode) (name : String) :
    Except FileFault (Option FileNode) :=
  match lookup rights name above t with
  | .ok (_, t) => .ok (some t)
  | .error .absent => .ok none
  | .error e => .error e

/-- The tree after writing a text to the file at a path, and the names that lead to the file. A file that
is there has to be readable too. -/
def write (tree : FileTree) (path text : String) : Except FileError (FileTree × List String) :=
  match tree.parentOf path with
  | .error e => .error ⟨"open", path, e⟩
  | .ok (above, parent, name) =>
    let place := placeBelow above name
    match entry tree.rights above parent name with
    | .error e => .error ⟨"open", path, e⟩
    | .ok (some (.dir _)) => .error ⟨"open", path, .isDirectory⟩
    | .ok (some (.file _)) =>
      if (tree.rights place).read then .ok (tree.put place (.file text), place)
      else .error ⟨"open", path, .denied⟩
    | .ok none => .ok (tree.make place (.file text), place)

/-- The path without the slashes at its end. -/
def dropSlashes (path : String) : String :=
  String.ofList (path.toList.reverse.dropWhile (· == '/')).reverse

/-- The tree after making one directory, whose parent is there. -/
def makeDir (tree : FileTree) (path : String) : Except FileError FileTree :=
  match (checkedComponents path).bind fun _ => tree.parentOf (dropSlashes path) with
  | .error e => .error ⟨"mkdir", path, e⟩
  | .ok (above, parent, name) =>
    match entry tree.rights above parent name with
    | .ok (some (.dir _)) => .ok tree
    | .ok (some (.file _)) => .error ⟨"mkdir", path, .present⟩
    | .ok none => .ok (tree.make (placeBelow above name) .empty)
    | .error e => .error ⟨"mkdir", path, e⟩

/-- Makes the first directory of a list whose later members are the directories above it: the tree then,
and what went wrong. -/
def makeDirsFrom (tree : FileTree) : List String → FileTree × Option FileError
  | [] => (tree, none)
  | path :: above =>
    match tree.locate path with
    | .ok (_, .dir _) => (tree, none)
    | .ok (_, .file _) => (tree, some ⟨"mkdir", path, .notDirectory⟩)
    | .error _ =>
      match makeDirsFrom tree above with
      | (tree, some e) => (tree, some e)
      | (tree, none) =>
        match tree.makeDir path with
        | .ok tree => (tree, none)
        | .error e => (tree, some e)

/-- The path without its last component and the slash before that, unless nothing else is left. -/
def pathAbove? (path : List Char) : Option (List Char) :=
  match (path.reverse.dropWhile (· == '/')).dropWhile (· != '/') with
  | [] | [_] => none
  | _ :: r => some r.reverse

/-- A path and the paths above it, nearest first. -/
def pathsUp : Nat → List Char → List String
  | 0, _ => []
  | fuel + 1, path =>
    String.ofList path ::
      match pathAbove? path with
      | none => []
      | some p => pathsUp fuel p

/-- The tree after making a directory and all that are missing above it, and what went wrong; directories
that were made before that stay. -/
def makeDirs (tree : FileTree) (path : String) : FileTree × Option FileError :=
  makeDirsFrom tree (pathsUp (path.length + 1) path.toList)

end FileTree

end JavaReview
