import JavaReview.Command.Run
import JavaReview.Store.Archive
import Std.Time.DateTime.Timestamp

/-!
The program: reads the files below the working directory and below the absolute paths of a command line,
runs the command line on them and writes back what has changed.
-/

open JavaReview

/-- The file or directory of an entry, and the places in it that cannot be read. What is no text counts as
such. -/
partial def readEntry (place : List String) (e : IO.FS.DirEntry) : IO (FileNode × List (List String)) := do
  try
    if ← e.path.isDir then
      let below ← (← e.path.readDir).toList.mapM fun e => do
        let (node, closed) ← readEntry (place ++ [e.fileName]) e
        return ((e.fileName, node), closed)
      return (.dir (below.map (·.1)), below.flatMap (·.2))
    return (.file (← IO.FS.readFile e.path), [])
  catch _ => return (if ← e.path.isDir then .empty else .file "", [place])

/-- The names of an absolute path. -/
def placeNames (path : String) : List String :=
  ((Path.components (Path.clean path)).filter (!·.isEmpty)).map String.ofList

/-- The tree with the files at a path as they are. -/
def readInto (tree : FileTree) (path : String) : IO FileTree := do
  let e : IO.FS.DirEntry := { root := "/", fileName := "/".intercalate (placeNames path) }
  if !(← e.path.pathExists) then return tree
  let (node, closed) ← readEntry (placeNames path) e
  let rights names := if names ∈ closed then { read := false } else tree.rights names
  return { tree.put (placeNames path) node with rights }

/-- The workspace with the stores that its files hold. -/
def withStores (tree : FileTree) : Workspace :=
  tree.root.files.foldl (fun w names =>
    match w.tree.root.get? names with
    | some (.file text) =>
      let held (mark : String) := (Text.eat? mark.toList text.toList).bind fun r =>
        (Store.unarchive? (String.ofList r)).map (mark, ·)
      match (Workspace.storeMarks.filter (!·.1.isBlank)).findSome? fun m => held m.2 with
      | some (mark, store) =>
        { tree := w.tree.put names (.file mark), stores := (names, store) :: w.stores }
      | none => w
    | _ => w) { tree }

/-- The text of a file to be kept. -/
def keptText (w : Workspace) (names : List String) (text : String) : String :=
  match w.stores.lookup names with
  | some store =>
    match Workspace.contentOf text with
    | .store _ => text ++ store.archive
    | _ => text
  | none => text

/-- Writes the files that differ from what was read. -/
def writeBack (old : FileTree) (w : Workspace) : IO Unit := do
  for names in w.tree.root.files do
    match w.tree.root.get? names with
    | some (.file text) =>
      let text := keptText w names text
      let same := match old.root.get? names with
        | some (.file t) => t == text
        | _ => false
      if !same then
        IO.FS.createDirAll ("/" ++ "/".intercalate names.dropLast)
        IO.FS.writeFile ("/" ++ "/".intercalate names) text
    | _ => pure ()

/-- The variables of the environment that count. -/
def variableNames : List String :=
  ["JREVIEW_DB_DSN", "JREVIEW_WORKERS", "JREVIEW_OUT_DIR", "JREVIEW_LOG_FORMAT", "JREVIEW_LOG_LEVEL",
    "JREVIEW_ADDR", "JREVIEW_ALLOWED_ORIGINS", "JREVIEW_PASSWORD"]

/-- The present. -/
def present : IO Instant := do
  let t ← Std.Time.Timestamp.now
  return .ofParts t.toSecondsSinceUnixEpoch.val 0

/-- Runs a command line on the files as they are. -/
def runOnce (input : String) (args : List String) : IO UInt32 := do
  let workingDir := (← IO.currentDir).toString
  let old ← (workingDir :: args.filter Path.isAbsolute).foldlM readInto
    { workingDir := placeNames workingDir }
  let environment ← variableNames.filterMapM fun v => do return (← IO.getEnv v).map (v, ·)
  let out ← IO.getStdout
  let r := Command.run { environment, now := ← present, colored := ← out.isTty, input } args (withStores old)
  out.putStr r.output
  out.flush
  writeBack old r.workspace
  match r.failure with
  | none => return 0
  | some f =>
    IO.eprintln ("Error: " ++ f.message)
    return 1

/-- Runs a command with a line of the input, and then with the lines after it. -/
partial def runLines (args : List String) (line : String) : IO UInt32 := do
  let code ← runOnce line args
  if code ≠ 0 then return code
  let next ← (← IO.getStdin).getLine
  if next.isEmpty then return 0 else runLines args next

/-- Runs the command line. The tools answer each line before they read the next. -/
def main (args : List String) : IO UInt32 := do
  match Command.readLine args with
  | .ok (.run l) => if l.name = .mcp then runLines args "" else runOnce "" args
  | _ => runOnce "" args
