import JavaReview.File.Tree
import JavaReview.Store.Basic
import JavaReview.Store.Opening

/-!
The workspace of commands: files, and the stores that some of them hold. A store is opened by the path
of its file, which is made if it is absent.
-/

namespace JavaReview

/-- Files, and the stores that are kept in files, by the names that lead there. -/
structure Workspace where
  tree : FileTree := .empty
  stores : List (List String × Store) := []

/-- A store that was opened, with the place of its file; a store without a place is not kept. -/
structure OpenedStore where
  place : Option (List String)
  store : Store

namespace Workspace

/-- The texts of the files that hold a store, or will. -/
def storeMarks : List (StoreContent × String) :=
  [(.blank false, ""), (.blank true, "jreview empty store\n"), (.store false, "jreview plain store\n"),
    (.store true, "jreview store\n")]

/-- What a file with a text holds. -/
def contentOf (text : String) : StoreContent :=
  ((storeMarks.find? (·.2 = text)).map (·.1)).getD .foreign

/-- The file with a text when its content is another one. -/
def withContent (text : String) (c : StoreContent) : String := (storeMarks.lookup c).getD text

/-- The longest path of a store from the root, in bytes. -/
def maxPlaceBytes : Nat := 510

/-- One more component of a path, whose names are listed last first. Names that are dropped again by
`..` need not be there, but nothing is below a file or below a directory that cannot be passed. -/
def placeStep (tree : FileTree) (names : List String) (c : String) : Except OpenError (List String) :=
  if c = "" ∨ c = "." then .ok names
  else if c = ".." then .ok names.tail
  else
    let place := (c :: names).reverse
    if byteSize (String.join (place.map ("/" ++ ·))) > maxPlaceBytes then .error .unreachable
    else
      match FileTree.follow tree.rights [] tree.root place with
      | .ok _ | .error .absent => .ok (c :: names)
      | .error _ => .error .unreachable

/-- The names that lead from the root to a path by text alone. -/
def placeOf (tree : FileTree) (path : String) : Except OpenError (List String) := do
  let above := if Path.isAbsolute path then [] else tree.workingDir
  let names ← (above ++ (Path.components path).map String.ofList).foldlM (placeStep tree) []
  return names.reverse

/-- The text of the file at a place, and the files when it is there; an absent one is made if that is
asked for. -/
def reach (tree : FileTree) (access : StoreAccess) (place : List String) :
    Except OpenError (String × FileTree) :=
  match tree.root.get? place, tree.root.get? place.dropLast with
  | some (.file text), _ => if (tree.rights place).read then .ok (text, tree) else .error .unreachable
  | none, some (.dir _) =>
    if access = .creating then .ok ("", tree.make place (.file "")) else .error .unreachable
  | _, _ => .error .unreachable

/-- The longest part that is put after the name of a store for the file of its journal. -/
def journalBytes : Nat := 8

/-- Whether the file of the journal of a store can have its name. -/
def canJournal (place : List String) : Bool :=
  byteSize (place.getLastD "") + journalBytes ≤ FileTree.maxNameBytes

/-- The files with or without a journal beside the store at a place. -/
def putJournal (tree : FileTree) (place : List String) (present : Bool) : FileTree :=
  let journal := place.dropLast ++ [place.getLastD "" ++ "-journal"]
  if present then tree.make journal (.file "") else tree.remove journal

/-- Opens the store whose file has a text, and the workspace then. -/
def openText (w : Workspace) (source : StoreSource) (place : List String) (text : String) :
    Except OpenError OpenedStore × Workspace :=
  let file : StoreFile := { source, canJournal := canJournal place }
  let (result, o) := file.tryOpen (contentOf text)
  let store := (w.stores.lookup place).getD .empty
  let opened := store.reopen (!file.isFixed && !o.queryOnly) (source.locksFirst && !file.isFixed)
  let tree := w.tree.put place (.file (withContent text o.content))
  let tree := (o.journal.map (putJournal tree place)).getD tree
  (result.map fun _ => ⟨some place, opened⟩, { w with tree })

/-- Opens a store, and the workspace then: a file that was made stays even if it cannot be used. -/
def openStore (w : Workspace) (text : String) : Except OpenError OpenedStore × Workspace :=
  match StoreSource.ofText text with
  | .error e => (.error e, w)
  | .ok source =>
    match source.path with
    | none => (openAside source, w)
    | some path =>
      match placeOf w.tree path with
      | .error e => (.error e, w)
      | .ok place =>
        match reach w.tree source.access place with
        | .error e => (.error e, w)
        | .ok (text, tree) => openText { w with tree } source place text
where
  /-- Opens a store that is not kept. -/
  openAside (source : StoreSource) : Except OpenError OpenedStore :=
    ({ source, canJournal := true : StoreFile }.tryOpen (.blank false)).1.map fun _ => ⟨none, .empty⟩

/-- The workspace with a store kept in its file. -/
def keepStore (w : Workspace) (o : OpenedStore) : Workspace :=
  match o.place with
  | none => w
  | some place => { w with stores := (place, o.store) :: w.stores.filter (·.1 != place) }

end Workspace

end JavaReview
