import JavaReview.File.Disk
import JavaReview.Text.Case
import JavaReview.Text.Decimal

/-!
Collecting source files. A path names a file, which is taken as it is, or a directory, below which
all files with the extension `.java` are taken. What cannot be listed or taken becomes a warning.
-/

namespace JavaReview.Source

/-- One source file. -/
structure CompilationUnit where
  path : String
  name : String
  text : String
deriving DecidableEq, Repr

/-- Whether a file name has the extension `.java`, in any case. -/
def isJava (name : String) : Bool := ".java".toList.isSuffixOf (name.toList.map Text.lower)

/-- Why a file was not taken. -/
inductive Warning where
  | unreadable (error : FileError)
  | tooLarge (path : String) (size : Nat) (limit : Int)
  | nothingFound
deriving DecidableEq, Repr

namespace Warning

/-- The text of a warning. -/
def message : Warning → String
  | unreadable e => e.message
  | tooLarge path size limit =>
    path ++ ": " ++ decimal size ++ " bytes exceeds limit of " ++ decimal limit
  | nothingFound => "no .java files found"

end Warning

/-- The warning for a file that is larger than a limit, if that is positive. -/
def tooLarge? (disk : Disk) (limit : Int) (path : String) : Option Warning :=
  match disk.stat path with
  | .error _ => none
  | .ok info => if limit > 0 ∧ info.size > limit then some (.tooLarge path info.size limit) else none

/-- Reads the file at a path, unless it is too large. -/
def readUnit (disk : Disk) (limit : Int) (path : String) : Except Warning CompilationUnit :=
  match tooLarge? disk limit path with
  | some w => .error w
  | none =>
    match disk.read path with
    | .error e => .error (.unreadable e)
    | .ok text => .ok { path, name := Path.base path, text }

/-- The Java files that a walk finds at an entry, given with its path, its name and whether it is a
directory, and below it: directory by directory, with a warning for each that cannot be listed. -/
def walk (disk : Disk) : Nat → String → String → Bool → List (Except Warning String)
  | _, path, name, false => if isJava name then [.ok path] else []
  | 0, _, _, true => []
  | depth + 1, path, _, true =>
    ((disk.list path).2.map fun e => .error (.unreadable e)).toList ++
      (disk.list path).1.flatMap fun e => walk disk depth (Path.join path e.1) e.1 e.2

/-- The cleaned paths of the files that a path names, and the warnings it gives. A link to a directory is
not followed. -/
def candidates (disk : Disk) (root : String) : List (Except Warning String) :=
  match disk.stat root with
  | .error e => [.error (.unreadable e)]
  | .ok info =>
    if !info.isDir then [.ok (Path.clean root)]
    else
      match disk.lstat root with
      | .error e => [.error (.unreadable e)]
      | .ok own =>
        (walk disk (disk.depth root + 1) root (Path.base root) own.isDir).map (·.map Path.clean)

/-- The list without the paths that were named before; `seen` were named before the first. -/
def firstMentions (seen : List String) : List (Except Warning String) → List (Except Warning String)
  | [] => []
  | .error w :: r => .error w :: firstMentions seen r
  | .ok p :: r => if p ∈ seen then firstMentions seen r else .ok p :: firstMentions (p :: seen) r

/-- Every file that the paths name, read or refused, once each in the order of mention. -/
def readings (disk : Disk) (limit : Int) (paths : List String) : List (Except Warning CompilationUnit) :=
  (firstMentions [] (paths.flatMap (candidates disk))).map (·.bind (readUnit disk limit))

/-- The source files that paths name, sorted by path. -/
def load (disk : Disk) (limit : Int) (paths : List String) : List CompilationUnit × List Warning :=
  let rs := readings disk limit paths
  let units := rs.filterMap Except.toOption
  let warnings := rs.filterMap fun r => match r with
    | .error w => some w
    | .ok _ => none
  (units.mergeSort (fun a b => a.path ≤ b.path),
    if units.isEmpty then warnings ++ [.nothingFound] else warnings)

end JavaReview.Source
