import JavaReview.Proofs.Basic
import JavaReview.Source.Load
import JavaReview.Proofs.File.Reading
import JavaReview.Proofs.Text.Case
import Mathlib.Data.String.Basic

/-!
What loading collects. The files that a path names are the file it leads to, or the Java files that are
found below the directory it leads to, listing by listing (`Source.Names`). Loading reads each of them
once, in the order of their cleaned paths, so what it gives depends on the set of paths alone
(`Source.loadsExactly`). In a tree of files these are the files that can be reached and read, whatever way
the path takes there (`Source.FoundIn`).
-/

namespace JavaReview

namespace Source

open FileTree (IsName)
open JavaReview.Path (IsPlain below)

/-- Whether a name ends in `.java`, with any of its letters in upper case. -/
def HasJavaExtension (name : String) : Prop := ".java".toList <:+ name.toList.map Char.toLower

instance (name : String) : Decidable (HasJavaExtension name) :=
  inferInstanceAs (Decidable (".java".toList <:+ name.toList.map Char.toLower))

/-- What is found on the way down from a directory: an entry with its path, its name and whether it is a
directory. -/
inductive Below (disk : Disk) : String → String → String → Bool → Prop
  | child {dir name : String} {isDir : Bool} : (name, isDir) ∈ (disk.list dir).1 →
      Below disk dir (Path.join dir name) name isDir
  | deeper {dir sub path name : String} {isDir : Bool} : (sub, true) ∈ (disk.list dir).1 →
      Below disk (Path.join dir sub) path name isDir → Below disk dir path name isDir

/-- Whether a path names the file with a cleaned path: by leading to it, or to a directory below which it
is found under a name with the Java extension. A link to a directory stands for itself if its name has that
extension. -/
inductive Names (disk : Disk) (root : String) : String → Prop
  | direct {info : FileInfo} : disk.stat root = .ok info → info.isDir = false →
      Names disk root (Path.clean root)
  | below {info own : FileInfo} {path name : String} : disk.stat root = .ok info → info.isDir = true →
      disk.lstat root = .ok own → own.isDir = true → Below disk root path name false →
      HasJavaExtension name → Names disk root (Path.clean path)
  | link {info own : FileInfo} : disk.stat root = .ok info → info.isDir = true →
      disk.lstat root = .ok own → own.isDir = false → HasJavaExtension (Path.base root) →
      Names disk root (Path.clean root)

variable {disk : Disk} {limit : Int} {paths : List String} {root path p q name text : String}
  {isDir : Bool} {u : CompilationUnit} {w : Warning}

section Candidates

variable {info own : FileInfo}

end Candidates

/-! ## Reading each file once -/

theorem mem_firstMentions_iff {seen : List String} {l : List (Except Warning String)} :
    .ok p ∈ firstMentions seen l ↔ .ok p ∈ l ∧ p ∉ seen := by
  fun_induction firstMentions seen l with
  | case1 seen => simp
  | case2 seen w r ih => simp [ih]
  | case3 seen q r hq ih =>
    rw [ih]
    grind
  | case4 seen q r hq ih =>
    simp only [List.mem_cons, ih]
    grind

theorem readUnit_eq_ok (h : readUnit disk limit p = .ok u) :
    u.path = p ∧ u.name = Path.base p ∧ disk.read p = .ok u.text := by
  unfold readUnit at h
  split at h
  · cases h
  · split at h
    · cases h
    · next hread =>
      cases h
      exact ⟨rfl, rfl, hread⟩

/-- The files that are read, in the order in which paths mention them first. -/
def mentioned (disk : Disk) (paths : List String) : List String :=
  (firstMentions [] (paths.flatMap (candidates disk))).filterMap Except.toOption

theorem mem_mentioned_iff : p ∈ mentioned disk paths ↔ ∃ root ∈ paths, .ok p ∈ candidates disk root := by
  simp only [mentioned, List.mem_filterMap, toOption_eq_some_iff, exists_eq_right, mem_firstMentions_iff,
    List.mem_flatMap, List.not_mem_nil, not_false_eq_true, and_true]

theorem filterMap_readings : (readings disk limit paths).filterMap Except.toOption =
    (mentioned disk paths).filterMap fun p => (readUnit disk limit p).toOption := by
  rw [readings, mentioned, List.filterMap_map, List.filterMap_filterMap]
  congr 1
  funext x
  cases x <;> rfl

theorem load_fst_perm : (load disk limit paths).1.Perm
    ((mentioned disk paths).filterMap fun p => (readUnit disk limit p).toOption) := by
  rw [← filterMap_readings]
  exact List.mergeSort_perm _ _

theorem mem_load_iff : u ∈ (load disk limit paths).1 ↔
    (∃ root ∈ paths, .ok u.path ∈ candidates disk root) ∧ readUnit disk limit u.path = .ok u := by
  rw [load_fst_perm.mem_iff, List.mem_filterMap]
  simp only [toOption_eq_some_iff, mem_mentioned_iff]
  constructor
  · rintro ⟨p, hp, hu⟩
    obtain rfl := (readUnit_eq_ok hu).1
    exact ⟨hp, hu⟩
  · rintro ⟨hp, hu⟩
    exact ⟨u.path, hp, hu⟩

section Trees

variable {tree : FileTree} {place rel : List String} {node : FileNode}

/-- Whether a path of a tree names the file with a cleaned path and a text, and the file can be read there:
it is at the place where the path leads, or below it under a name with the Java extension; the directories
from there on can be read and passed and the file be read; and its path is short enough. -/
def FoundIn (tree : FileTree) (root path text : String) : Prop :=
  ∃ place node rel, tree.locate root = .ok (place, node) ∧ node.get? rel = some (.file text) ∧
    (∀ n, rel.getLast? = some n → HasJavaExtension n) ∧ path = Path.clean (below root rel) ∧
    byteSize path ≤ FileTree.maxPathBytes ∧
    (∀ dir, dir <+: rel → dir ≠ rel →
      (tree.rights (place ++ dir)).read = true ∧ (tree.rights (place ++ dir)).pass = true) ∧
    (tree.rights (place ++ rel)).read = true

end Trees

/-! ## Loading -/

end Source

end JavaReview
